import LogMarkup.Deferred
import LogMarkup.Proofs.Message.Joined
import LogMarkup.Proofs.Offsets.Positions
import LogMarkup.Proofs.RoundTrip.Reported

/-!
# Reading deferred messages

A deferred message is expanded in several ways: it is shown, it is expanded with its errors, and it
is made the description of an error. As long as the resolver keeps no state all of them have the
same text. If the template has an error they have the text in front of it, and the report about it
in different places: alone, or behind that text in apostrophes. Neither the apostrophe nor the
report starts with a delimiter, so this can be read again if the text in front of the error can.

* `Resolver.ask_answering`: a resolver without state is asked.
* `Deferred.display_of_scan`, `Deferred.toError_of_scan`: templates without error.
* `MessageError.items`: the items of the description of an error.
* `deferred_expansions_agree`: all the ways to expand a message, and what is read from them.
-/

namespace LogMarkup

variable {σ : Type}

/-! ## Resolvers without state -/

theorem Resolver.ask_answering (f : Nat → Text → Answer) (placeholders : List Placeholder) (s : σ) :
    (Resolver.answering f).ask placeholders s =
      (placeholders.map fun p => (p, f p.index p.name), s) := by
  induction placeholders with
  | nil => rfl
  | cons p rest ih =>
    rw [Resolver.ask_cons]
    change ((p, f p.index p.name) :: ((Resolver.answering f).ask rest s).1,
      ((Resolver.answering f).ask rest s).2) = _
    rw [ih]
    rfl

theorem Resolver.events_answering (f : Nat → Text → Answer) (placeholders : List Placeholder)
    (s : σ) :
    (Resolver.answering f).events placeholders s =
      placeholders.map fun p => (f p.index p.name).event p.name := by
  rw [Resolver.events, Resolver.ask_answering, List.map_map]
  rfl

/-! ## Expanding in several ways -/

/-- The report about the arguments without a value, if there are any. -/
def Resolver.unresolved? (r : Resolver σ) (parts : List Part) (s : σ) :
    Option UnresolvedArguments :=
  if r.failures parts s = [] then none else some ⟨r.rendered parts s, r.failures parts s⟩

theorem Resolver.unresolved?_eq_or (r : Resolver σ) (parts : List Part) (s : σ) :
    r.unresolved? parts s = none ∨
      ∃ u, r.unresolved? parts s = some u ∧ u.message = r.rendered parts s := by
  unfold unresolved?
  split
  · exact .inl rfl
  · exact .inr ⟨_, rfl, rfl⟩

theorem Resolver.isSome_unresolved?_answering_iff {f : Nat → Text → Answer} {parts : List Part}
    {s : σ} :
    ((Resolver.answering f).unresolved? parts s).isSome ↔
      ∃ p ∈ placeholdersOf parts, ∃ failure, (f p.index p.name).result = .error failure := by
  have hSome : ((Resolver.answering f).unresolved? parts s).isSome ↔
      (Resolver.answering f).failures parts s ≠ [] := by
    unfold unresolved?
    split <;> simp [*]
  have hFailed : ∀ result : Except ResolveError Unit,
      ¬ result = .ok () ↔ ∃ failure, result = .error failure := by
    intro result
    cases result <;> simp
  rw [hSome, Ne, failures_eq_nil_iff, ask_answering]
  simp [hFailed]

namespace Deferred

variable {source : Text} {parts : List Part} {error : SyntaxError} {r : Resolver σ} {s : σ}

/-- However a message is expanded, the resolver is asked once for each placeholder. -/
theorem state_eq (m : Deferred σ) (s : σ) :
    (m.display s).2 = (m.expandInto .empty s).state ∧
      (m.expand s).2 = (m.expandInto .empty s).state ∧
      (m.toError s).2 = (m.expandInto .empty s).state := by
  refine ⟨?_, rfl, rfl⟩
  unfold display
  dsimp only
  split <;> rfl

theorem expandInto_of_scan (h : scan source = (parts, none)) :
    ((⟨source, r⟩ : Deferred σ).expandInto .empty s).buffer.text = r.rendered parts s ∧
      ((⟨source, r⟩ : Deferred σ).expandInto .empty s).result =
        match r.unresolved? parts s with
        | none => .ok ()
        | some u => .error (.unresolved u) := by
  refine ⟨text_expandInto h .empty r s, (result_expandInto h .empty r s).trans ?_⟩
  unfold Resolver.unresolved?
  split <;> rfl

theorem display_of_scan (h : scan source = (parts, none)) :
    ((⟨source, r⟩ : Deferred σ).display s).1 = r.rendered parts s := by
  obtain ⟨hText, hResult⟩ := expandInto_of_scan (r := r) (s := s) h
  unfold display
  dsimp only
  rw [hResult]
  cases r.unresolved? parts s with
  | none => exact hText
  | some u => exact hText

theorem toError_of_scan (h : scan source = (parts, none)) :
    ((⟨source, r⟩ : Deferred σ).toError s).1 =
      ⟨r.rendered parts s, (r.unresolved? parts s).map .unresolved⟩ := by
  obtain ⟨hText, hResult⟩ := expandInto_of_scan (r := r) (s := s) h
  unfold toError
  dsimp only
  rw [hResult, hText]
  cases r.unresolved? parts s <;> rfl

theorem expand_of_scan (h : scan source = (parts, none)) :
    ((⟨source, r⟩ : Deferred σ).expand s).1 = match r.unresolved? parts s with
      | none => .ok (r.rendered parts s)
      | some u => .error (.unresolved u) := by
  obtain ⟨hText, hResult⟩ := expandInto_of_scan (r := r) (s := s) h
  change ((⟨source, r⟩ : Deferred σ).expandInto .empty s).message = _
  rw [Expanded.message, hResult, hText]
  cases r.unresolved? parts s <;> rfl

theorem display_of_error (h : (scan source).2 = some error) :
    ((⟨source, r⟩ : Deferred σ).display s).1 = error.message := by
  simp only [display, expandInto, expandInto_of_error h]

theorem expand_of_error (h : (scan source).2 = some error) :
    ((⟨source, r⟩ : Deferred σ).expand s).1 = .error (.malformed error) := by
  change (LogMarkup.expandInto .empty source r s).message = _
  rw [expandInto_of_error h]
  rfl

theorem toError_of_error (h : (scan source).2 = some error) :
    ((⟨source, r⟩ : Deferred σ).toError s).1 =
      ⟨r.rendered (scan source).1 s, some (.malformed error)⟩ := by
  have hText := text_expandInto_scan .empty source r s
  rw [Buffer.text_empty, List.nil_append] at hText
  unfold toError expandInto
  dsimp only
  rw [hText, expandInto_of_error h]

end Deferred

/-! ## Items around the report -/

theorem Grammatical.literalItems_append {items : List Item} (h : Grammatical items) (v : Text) :
    Grammatical (literalItems v ++ items) := by
  rw [grammatical_iff_stands, stands_append]
  exact ⟨stands_literalItems _ v, grammatical_iff_stands.mp h⟩

namespace SyntaxError

/-- The items of the description of an error, around those of the message in front of it. -/
def describedItems (e : SyntaxError) (front : List Item) : List Item :=
  literalItems "appending '".toList ++ (front ++ (literalItems "': ".toList ++ e.items))

variable (e : SyntaxError) (front : List Item)

theorem eventsOf_describedItems :
    eventsOf (e.describedItems front) = eventsOf front ++ e.events := by
  simp only [describedItems, eventsOf_append, eventsOf_literalItems, e.eventsOf_items,
    List.nil_append]

theorem messageOf_describedItems :
    messageOf (e.describedItems front) =
      MessageError.display ⟨messageOf front, some (.malformed e)⟩ := by
  have hOpening : escape "appending '".toList = "appending ".toList ++ ['\''] := by decide +kernel
  have hClosing : escape "': ".toList = ['\''] ++ ": ".toList := by decide +kernel
  simp only [describedItems, messageOf_append, messageOf_literalItems, e.messageOf_items, hOpening,
    hClosing, MessageError.display, inApostrophes, List.append_assoc]

theorem templateOf_describedItems :
    templateOf (e.describedItems front) =
      "appending '".toList ++ templateOf front ++ "': ".toList ++ reportTemplate := by
  have hOpening : escape "appending '".toList = "appending '".toList := by decide +kernel
  have hClosing : escape "': ".toList = "': ".toList := by decide +kernel
  simp only [describedItems, templateOf_append, templateOf_literalItems, e.templateOf_items,
    hOpening, hClosing, List.append_assoc]

variable {front} in
/-- An argument in front of the error meets no delimiter, but the apostrophe. -/
theorem grammatical_describedItems (h : Grammatical front) :
    Grammatical (e.describedItems front) := by
  have hReport := e.grammatical_items.literalItems_append "': ".toList
  have hHead : (messageOf (literalItems "': ".toList ++ e.items)).head? = some '\'' := by
    rw [messageOf_append, messageOf_literalItems]
    rfl
  have hJoined : Grammatical (front ++ (literalItems "': ".toList ++ e.items)) := by
    refine (grammatical_append_iff h hReport).mpr ?_
    rw [hHead]
    rintro ⟨-, hDelimiter⟩
    exact absurd hDelimiter (by decide)
  exact hJoined.literalItems_append _

end SyntaxError

namespace MessageError

/-- The arguments of the message are those of its items. -/
theorem exists_arguments_eq_ok {items : List Item} (h : Grammatical items)
    (expandError : Option ExpandError) :
    ∃ groups, arguments ⟨messageOf items, expandError⟩ = .ok groups ∧
      ∀ name, groups.lookup name =
        if valuesUnder name (eventsOf items) = [] then none
        else some (valuesUnder name (eventsOf items)) := by
  have hRead := readGroups_eq (messageOf items) none
  rw [readItems_eq_ok_iff.mpr ⟨h, rfl⟩] at hRead
  refine ⟨groupsOf (argumentsIn items), by rw [arguments, hRead], ?_⟩
  intro name
  rw [lookup_groupsOf, eventsOf_eq_map, valuesUnder_map_event]

theorem readMessage_display {items : List Item} (h : Grammatical items) (e : SyntaxError)
    (sink : Text) :
    readMessage (display ⟨messageOf items, some (.malformed e)⟩) (some sink)
        (Receiver.recording : Receiver Empty (List Event)) [] =
      ⟨.ok (), some (sink ++ ("appending '".toList ++ templateOf items ++ "': ".toList ++
        SyntaxError.reportTemplate)), eventsOf items ++ e.events⟩ := by
  rw [← e.messageOf_describedItems, readMessage_recording (e.grammatical_describedItems h),
    e.eventsOf_describedItems, e.templateOf_describedItems]
  rfl

end MessageError

/-- A message with a resolver without state, expanded in all the ways there are. Without an error
in the template all texts are the same, and an error is kept iff an argument has no value. With an
error in the template its report is shown, and the message of the error is the expansion of the
template in front of it. If that can be read, the arguments in front of the error are read from it,
and these and the arguments of the report are read from the description. -/
theorem deferred_expansions_agree (source : Text) (f : Nat → Text → Answer) (s : σ) :
    let m : Deferred σ := ⟨source, .answering f⟩
    let shown := (m.display s).1
    let error := (m.toError s).1
    ((m.display s).2 = s ∧ (m.expand s).2 = s ∧ (m.toError s).2 = s) ∧
    (∀ t, Template.ofText source = .ok t →
      error.message = shown ∧ error.display = shown ∧
      ((m.expand s).1 = .ok shown ∧ error.expandError = none ∨
        ∃ u : UnresolvedArguments, u.message = shown ∧
          (m.expand s).1 = .error (.unresolved u) ∧ error.expandError = some (.unresolved u)) ∧
      (error.expandError.isSome ↔
        ∃ p ∈ t.placeholders, ∃ failure, (f p.index p.name).result = .error failure)) ∧
    ∀ e, Template.ofText source = .error e →
      let front := Template.front source
      let events := front.placeholders.map fun p => (f p.index p.name).event p.name
      shown = e.message ∧ (m.expand s).1 = .error (.malformed e) ∧
      error.expandError = some (.malformed e) ∧
      (∃ rest, source = front.source ++ delimiter :: rest) ∧
      error.message = (front.expandInto .empty m.resolver s).buffer.text ∧
      (∀ buffer, (m.expandInto buffer s).buffer.text = buffer.text ++ error.message) ∧
      (byteLength source < UInt64.size → e.shownPosition = e.position) ∧
      ((∀ p ∈ front.placeholders, (p.following front.source).head? ≠ some delimiter) →
        (∃ groups : ArgGroups, error.arguments = .ok groups ∧
          ∀ name, groups.lookup name =
            if valuesUnder name events = [] then none else some (valuesUnder name events)) ∧
        ∀ sink, readMessage error.display (some sink)
            (Receiver.recording : Receiver Empty (List Event)) [] =
          ⟨.ok (), some (sink ++ ("appending '".toList ++
            front.parts.flatMap Part.unindexed ++ "': ".toList ++ SyntaxError.reportTemplate)),
            events ++ e.events⟩) := by
  intro m shown error
  refine ⟨?_, ?_, ?_⟩
  · obtain ⟨hDisplay, hExpand, hError⟩ := m.state_eq s
    have hState : (m.expandInto .empty s).state = s := by
      have hAsked := state_expandInto_scan .empty source (.answering f) s
      rw [Resolver.ask_answering] at hAsked
      exact hAsked
    exact ⟨hDisplay.trans hState, hExpand.trans hState, hError.trans hState⟩
  · intro t ht
    obtain rfl := Template.ofText_eq_ok_iff.mp ht
    have hShown : shown = _ := Deferred.display_of_scan t.scan_source
    have hError : error = _ := Deferred.toError_of_scan t.scan_source
    have hExpand : (m.expand s).1 = _ := Deferred.expand_of_scan t.scan_source
    rw [hShown, hError, hExpand]
    refine ⟨rfl, ?_, ?_, ?_⟩
    · cases m.resolver.unresolved? t.parts s <;> rfl
    · rcases Resolver.unresolved?_eq_or m.resolver t.parts s with hNone | ⟨u, hSome, hMessage⟩
      · rw [hNone]
        exact .inl ⟨rfl, rfl⟩
      · rw [hSome]
        exact .inr ⟨u, hMessage, rfl, rfl⟩
    · rw [Option.isSome_map]
      exact Resolver.isSome_unresolved?_answering_iff
  · intro e he front events
    have hScan := Template.ofText_eq_error_iff.mp he
    have hTiled : Tiled 0 0 front.parts := tiled_scan source
    have hMessage := messageOf_items hTiled m.resolver s
    have hError : error = ⟨messageOf (m.resolver.items front.parts s), some (.malformed e)⟩ := by
      rw [hMessage]
      exact Deferred.toError_of_error hScan
    have hEvents : eventsOf (m.resolver.items front.parts s) = events := by
      rw [eventsOf_items]
      exact Resolver.events_answering f front.placeholders s
    rw [hError]
    refine ⟨Deferred.display_of_error hScan, Deferred.expand_of_error hScan, rfl,
      Template.exists_source_front hScan, ?_, ?_, ?_, ?_⟩
    · rw [hMessage, front.expandInto_eq]
      exact (text_expandInto front.scan_source .empty m.resolver s).symm
    · intro buffer
      rw [hMessage]
      exact text_expandInto_scan buffer source m.resolver s
    · intro hSize
      have hPosition := (SyntaxError.isBoundary_position hScan).le
      exact SyntaxError.shownPosition_eq (Nat.lt_of_le_of_lt hPosition hSize)
    · intro hApart
      have hItems := (grammatical_items_iff hTiled m.resolver s).mpr hApart
      rw [← hEvents, ← templateOf_items hTiled m.resolver s]
      exact ⟨MessageError.exists_arguments_eq_ok hItems _,
        MessageError.readMessage_display hItems e⟩

end LogMarkup
