import LogMarkup.Expansion.Report
import LogMarkup.Proofs.Expansion.Filled
import LogMarkup.Proofs.Message.Collected
import LogMarkup.Proofs.RoundTrip.Expanded

/-!
# Reading reports about templates

The report about a template is expanded from a template without error, and its three arguments are
always there, so it is a message whatever is wrong with the template that it shows. None of its
placeholders is followed by a delimiter. So reading the report gives the three arguments back, and
with them the error.

* `SyntaxError.items`, `SyntaxError.events`: the items of the report, and its arguments.
* `SyntaxError.report_eq_ok`, `SyntaxError.grammatical_items`: the report is a message.
* `SyntaxError.readUnique_message`: the error is read back from the report.
-/

namespace LogMarkup

/-- Sorted maps with the same entries have them in the same order. -/
theorem TextMap.entries_eq_of_perm {α : Type} {m : TextMap α} {entries : List (Text × α)}
    (hSorted : entries.Pairwise fun a b => a.1 < b.1) (h : m.entries.Perm entries) :
    m.entries = entries := by
  refine h.eq_of_pairwise ?_ m.sorted hSorted
  intro a b _ _ hLt hGt
  exact absurd (List.lt_trans hLt hGt) (List.lt_irrefl a.1)

namespace SyntaxError

/-- The descriptions differ in their lengths already. -/
theorem Kind.length_description (k : Kind) :
    k.description.length = match k with
      | .unterminatedArgument => 21
      | .emptyName => 19
      | .nameContainsSeparator => 23
      | .emptyIndex => 20
      | .notADigit => 33
      | .indexOutOfRange => 31 := by
  cases k <;> decide +kernel

theorem Kind.description_injective {k other : Kind} (h : k.description = other.description) :
    k = other := by
  have hLength := congrArg List.length h
  rw [k.length_description, other.length_description] at hLength
  cases k <;> cases other <;> first | rfl | cases hLength

/-! ## The items of a report -/

/-- The position as it stands in the report. -/
def shownPosition (e : SyntaxError) : Nat := (UInt64.ofNat e.position).toNat

theorem shownPosition_eq {e : SyntaxError} (h : e.position < UInt64.size) :
    e.shownPosition = e.position := UInt64.toNat_ofNat_of_lt h

/-- The resolver that the report is expanded with. -/
def resolver (e : SyntaxError) : Resolver Unit :=
  .positional [.text e.template, .nat (UInt64.ofNat e.position), .text e.kind.description]

/-- The items of the report. -/
def items (e : SyntaxError) : List Item := e.resolver.items (scan reportTemplate).1 ()

/-- The arguments of the report. -/
def events (e : SyntaxError) : List Event :=
  [.ofText "tmpl".toList e.template false,
    .ofText "pos".toList (decimal e.shownPosition) false,
    .ofText "desc".toList e.kind.description false]

/-- The literal text of the template and its three placeholders. -/
theorem scan_reportTemplate : scan reportTemplate =
    ([.literal "syntax error in ".toList, .placeholder ⟨16, "tmpl".toList, none, 0⟩,
      .literal ":".toList, .placeholder ⟨23, "pos".toList, none, 1⟩,
      .literal ":".toList, .placeholder ⟨29, "desc".toList, none, 2⟩], none) := by
  decide +kernel

theorem eventsOf_items (e : SyntaxError) : eventsOf e.items = e.events := by
  have hText : ∀ name t, Answer.event name (.ofValue (.text t)) = .ofText name t false := by
    intro name t
    change Event.ofText name (t ++ []) false = _
    rw [List.append_nil]
  have hNumber : ∀ name n, Answer.event name (.ofValue (.nat n)) =
      .ofText name (decimal n.toNat) false := by
    intro name n
    have hChunks : integerChunks n.toNat = [.text (decimal n.toNat)] :=
      if_neg (Int.not_lt.mpr (Int.natCast_nonneg n.toNat))
    change Event.ofText name ((integerChunks n.toNat).flatMap Chunk.toText) false = _
    rw [hChunks]
    exact congrArg (Event.ofText name · false) (List.append_nil _)
  rw [items, LogMarkup.eventsOf_items, scan_reportTemplate]
  change [Answer.event _ (.ofValue (.text _)), Answer.event _ (.ofValue (.nat _)),
    Answer.event _ (.ofValue (.text _))] = _
  rw [hText, hNumber, hText]
  rfl

theorem templateOf_items (e : SyntaxError) : templateOf e.items = reportTemplate := by
  rw [items, LogMarkup.templateOf_items (tiled_scan reportTemplate), scan_reportTemplate]
  rfl

theorem grammatical_items (e : SyntaxError) : Grammatical e.items := by
  refine (grammatical_items_iff (tiled_scan reportTemplate) e.resolver ()).mpr ?_
  rw [scan_reportTemplate]
  decide +kernel

/-- No argument of the report is missing, so there is no other report. -/
theorem report_eq_ok (e : SyntaxError) : e.report = .ok (messageOf e.items) := by
  have hResult : (expandInto .empty reportTemplate e.resolver ()).result = .ok () := by
    rw [result_expandInto scan_reportTemplate]
    exact if_pos rfl
  have hText : (expandInto .empty reportTemplate e.resolver ()).buffer.text =
      messageOf e.items := by
    rw [items, LogMarkup.messageOf_items (tiled_scan reportTemplate), text_expandInto_scan]
    rfl
  change (expandInto .empty reportTemplate e.resolver ()).message = _
  rw [Expanded.message, hResult, hText]
  rfl

theorem messageOf_items (e : SyntaxError) : messageOf e.items = e.message := by
  rw [message, e.report_eq_ok]

/-! ## Reading a report -/

/-- The arguments of the report in the order of their names. -/
def entries (e : SyntaxError) : List (Text × ArgValue) :=
  [("desc".toList, .value e.kind.description), ("pos".toList, .value (decimal e.shownPosition)),
    ("tmpl".toList, .value e.template)]

theorem readUnique_items (e : SyntaxError) (sink : Option Text) :
    ∃ values : TextMap ArgValue, values.entries = e.entries ∧
      readUnique e.message sink = ⟨.ok values, sink.map (· ++ reportTemplate)⟩ := by
  have hRead := readMessage_recording (ε := Empty) e.grammatical_items sink
  rw [e.messageOf_items, e.templateOf_items, e.eventsOf_items] at hRead
  have hUnique := readUnique_takes_or_repeats e.message sink
  simp only [hRead] at hUnique
  have hNodup : (e.events.map Event.name).Nodup := by
    change ["tmpl".toList, "pos".toList, "desc".toList].Nodup
    decide
  obtain ⟨-, values, hEntries, hTemplate, hResult, -⟩ :=
    hUnique.resolve_right fun h => h.1 hNodup
  have hOk := (hResult values).mpr ⟨trivial, rfl⟩
  have hPerm : (e.events.map fun event => (event.name, event.value)).Perm e.entries :=
    List.reverse_perm e.entries
  have hSorted : e.entries.Pairwise fun a b => a.1 < b.1 := by
    have hKeys : (e.entries.map Prod.fst).Pairwise (· < ·) := by
      change ["desc".toList, "pos".toList, "tmpl".toList].Pairwise (· < ·)
      decide
    exact List.pairwise_map.mp hKeys
  refine ⟨values, TextMap.entries_eq_of_perm hSorted (hEntries.trans hPerm), ?_⟩
  cases hUnique : readUnique e.message sink with
  | mk result template =>
    rw [hUnique] at hOk hTemplate
    exact congr (congrArg Collected.mk hOk) hTemplate

/-- The values of the arguments tell the error. -/
theorem eq_of_entries_eq {e other : SyntaxError} (h : e.entries = other.entries)
    (he : e.position < UInt64.size) (hOther : other.position < UInt64.size) : e = other := by
  simp only [entries, shownPosition_eq he, shownPosition_eq hOther, List.cons.injEq,
    Prod.mk.injEq, ArgValue.value.injEq, true_and, and_true] at h
  obtain ⟨hKind, hPosition, hTemplate⟩ := h
  have hSame := congrArg readDecimal hPosition
  rw [readDecimal_decimal, readDecimal_decimal] at hSame
  cases e
  cases other
  rw [mk.injEq]
  exact ⟨hTemplate, hSame, Kind.description_injective hKind⟩

/-- The report is a message for every template, position and kind of error. Its arguments are the
template as it is, the position in decimal and the description of the error, so no other error has
the same report. -/
theorem readUnique_message (e : SyntaxError) (h : e.position < UInt64.size) :
    e.report = .ok e.message ∧
    (∀ sink, ∃ values : TextMap ArgValue,
      values.entries =
        [("desc".toList, .value e.kind.description), ("pos".toList, .value (decimal e.position)),
          ("tmpl".toList, .value e.template)] ∧
      readUnique e.message sink = ⟨.ok values, sink.map (· ++ reportTemplate)⟩) ∧
    ∀ other : SyntaxError, other.position < UInt64.size → other.message = e.message →
      other = e := by
  have hEntries : e.entries = [("desc".toList, .value e.kind.description),
      ("pos".toList, .value (decimal e.position)), ("tmpl".toList, .value e.template)] := by
    rw [entries, shownPosition_eq h]
  refine ⟨?_, ?_, ?_⟩
  · rw [e.report_eq_ok, e.messageOf_items]
  · intro sink
    rw [← hEntries]
    exact e.readUnique_items sink
  · intro other hOther hMessage
    obtain ⟨values, hValues, hRead⟩ := e.readUnique_items none
    obtain ⟨found, hFound, hReadOther⟩ := other.readUnique_items none
    rw [hMessage, hRead] at hReadOther
    obtain rfl : values = found := Except.ok.inj (congrArg Collected.result hReadOther)
    exact eq_of_entries_eq (hFound.symm.trans hValues) hOther h

/-- The report about a template with an index that is left out. -/
theorem readUnique_message_of_emptyIndex :
    let e : SyntaxError := ⟨"foo `ba:` baz".toList, 8, .emptyIndex⟩
    e.position < UInt64.size ∧
      e.message =
        "syntax error in `tmpl:foo ``ba:`` baz`:`pos:8`:`desc:empty explicit index`".toList ∧
      ∃ values : TextMap ArgValue,
        values.entries =
          [("desc".toList, .value "empty explicit index".toList), ("pos".toList, .value ['8']),
            ("tmpl".toList, .value "foo `ba:` baz".toList)] ∧
        readUnique e.message (some []) = ⟨.ok values, some reportTemplate⟩ := by
  intro e
  have hPosition : e.position < UInt64.size := by decide
  obtain ⟨-, hRead, -⟩ := e.readUnique_message hPosition
  obtain ⟨values, hValues, hResult⟩ := hRead (some [])
  have hDigits : decimal e.position = ['8'] := by decide +kernel
  have hMessage : e.message =
      "syntax error in `tmpl:foo ``ba:`` baz`:`pos:8`:`desc:empty explicit index`".toList := by
    rw [← e.messageOf_items, items, scan_reportTemplate]
    decide +kernel
  rw [hDigits] at hValues
  exact ⟨hPosition, hMessage, values, hValues, hResult⟩

end SyntaxError

end LogMarkup
