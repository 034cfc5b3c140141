import LogMarkup.Proofs.Message.Grammar
import LogMarkup.Proofs.Template.Index

/-!
# Reading placeholders

A text behind a single opening delimiter either is that of a placeholder and more text, or has a
flaw. The flaw is decided by what stands behind the opening delimiter, and is reported at the
opening delimiter, in the place of the name or in the explicit index.

* `Placeholder.Fits`: placeholders for a byte offset and an automatic index, and
  `Placeholder.fits_iff`.
* `Placeholder.Flaw`: what is wrong with a text behind an opening delimiter, and where.
* `Placeholder.reads`: reading gives a placeholder that fits the place or reports a flaw.
* `Placeholder.read_eq_ok_iff`: reading gives exactly the placeholders that fit the place.
-/

namespace LogMarkup

/-! ## Names -/

theorem IsName.notMem {name : Text} (h : IsName name) {c : Char} (hc : endsName c = true) :
    c ∉ name := by
  intro hMem
  rw [h.endsName_eq_false c hMem] at hc
  cases hc

theorem endsName_eq_false_of_notMem {t : Text} (hSeparator : nameSeparator ∉ t)
    (hMarker : errorMarker ∉ t) (hDelimiter : delimiter ∉ t) : ∀ c ∈ t, endsName c = false := by
  intro c hMem
  rw [Bool.eq_false_iff]
  intro hc
  rcases endsName_eq_true_iff.mp hc with rfl | rfl | rfl
  · exact hSeparator hMem
  · exact hMarker hMem
  · exact hDelimiter hMem

theorem isName_of_notMem {name : Text} (hNe : name ≠ []) (hSeparator : nameSeparator ∉ name)
    (hMarker : errorMarker ∉ name) (hDelimiter : delimiter ∉ name) : IsName name :=
  ⟨hNe, endsName_eq_false_of_notMem hSeparator hMarker hDelimiter⟩

namespace Placeholder

/-! ## Placeholders and flaws -/

/-- The placeholder stands at the byte offset `start`, where `automatic` is the next index. -/
structure Fits (p : Placeholder) (start automatic : Nat) : Prop where
  start_eq : p.start = start
  isName : IsName p.name
  index_of_none : p.digits = none → p.index = automatic
  readIndex_eq : ∀ digits, p.digits = some digits → readIndex digits = .ok p.index

theorem fits_iff {p : Placeholder} {start automatic : Nat} :
    p.Fits start automatic ↔
      p.start = start ∧ IsName p.name ∧ (∀ digits ∈ p.digits, IsIndex digits) ∧
        p.index = p.digits.elim automatic readDecimal := by
  cases hDigits : p.digits with
  | none =>
    constructor
    · rintro ⟨hStart, hName, hIndex, -⟩
      exact ⟨hStart, hName, by simp, hIndex hDigits⟩
    · rintro ⟨hStart, hName, -, hIndex⟩
      exact ⟨hStart, hName, fun _ => hIndex, by simp [hDigits]⟩
  | some digits =>
    constructor
    · rintro ⟨hStart, hName, -, hRead⟩
      obtain ⟨hIndex, hValue⟩ := readIndex_eq_ok_iff.mp (hRead digits hDigits)
      exact ⟨hStart, hName, by simpa using hIndex, hValue⟩
    · rintro ⟨hStart, hName, hIndex, hValue⟩
      refine ⟨hStart, hName, by simp [hDigits], ?_⟩
      intro found hFound
      obtain rfl : digits = found := Option.some.inj (hDigits.symm.trans hFound)
      exact readIndex_eq_ok_iff.mpr ⟨hIndex digits rfl, hValue⟩

/-- What is wrong with the text behind an opening delimiter at the byte offset `start`, and the
byte offset of the error. -/
inductive Flaw (start : Nat) : Text → Nat → SyntaxError.Kind → Prop where
  | unterminatedArgument {rest : Text} (hEnd : delimiter ∉ rest) :
      Flaw start rest (start + 1) .unterminatedArgument
  | emptyName {rest : Text} (hEnd : delimiter ∈ rest) :
      Flaw start (nameSeparator :: rest) (start + 1) .emptyName
  | nameContainsSeparator {before rest : Text} (hBefore : ∀ c ∈ before, endsName c = false)
      (hEnd : delimiter ∈ rest) :
      Flaw start (before ++ errorMarker :: rest) (start + 1 + byteLength before)
        .nameContainsSeparator
  | index {name digits rest : Text} {offset : Nat} {kind : SyntaxError.Kind} (hName : IsName name)
      (hDigits : delimiter ∉ digits) (hFlaw : IndexFlaw digits offset kind) :
      Flaw start (name ++ nameSeparator :: (digits ++ delimiter :: rest))
        (start + 1 + byteLength name + 1 + offset) kind

/-- An error marker in the name, which is all of the body or its part before the separator. -/
theorem Flaw.of_cutAt {start : Nat} {name before behind rest : Text}
    (hSeparator : nameSeparator ∉ name) (hDelimiter : delimiter ∉ name)
    (hCut : cutAt errorMarker name = some (before, behind)) (hEnd : delimiter ∈ rest) :
    Flaw start (name ++ rest) (start + 1 + byteLength before) .nameContainsSeparator := by
  obtain ⟨rfl, hMarker⟩ := cutAt_eq_some hCut
  have hBefore := endsName_eq_false_of_notMem (fun h => hSeparator (List.mem_append_left _ h))
    hMarker (fun h => hDelimiter (List.mem_append_left _ h))
  rw [List.append_assoc, List.cons_append]
  exact .nameContainsSeparator hBefore (List.mem_append_right _ hEnd)

/-! ## Reading -/

/-- What reading behind an opening delimiter can give. -/
inductive Reads (start automatic : Nat) (rest : Text) :
    Except (Nat × SyntaxError.Kind) (Placeholder × Text) → Prop where
  | ok {p : Placeholder} {after : Text} (hFits : p.Fits start automatic) :
      Reads start automatic rest (.ok (p, after))
  | error {position : Nat} {kind : SyntaxError.Kind} (hFlaw : Flaw start rest position kind) :
      Reads start automatic rest (.error (position, kind))

theorem reads {rest : Text} (hSingle : rest.head? ≠ some delimiter) (start automatic : Nat) :
    Reads start automatic rest (Placeholder.read start automatic rest) := by
  unfold Placeholder.read
  split
  · rename_i hCut
    exact .error (.unterminatedArgument (cutAt_eq_none_iff.mp hCut))
  · rename_i body after hBody
    obtain ⟨rfl, hDelimiter⟩ := cutAt_eq_some hBody
    cases hCut : cutAt nameSeparator body with
    | none =>
      have hSeparator := cutAt_eq_none_iff.mp hCut
      dsimp only
      split
      · rename_i hEmpty
        rw [hEmpty] at hSingle
        exact absurd rfl hSingle
      · rename_i hNe
        split
        · rename_i before behind hMarked
          exact .error (.of_cutAt hSeparator hDelimiter hMarked List.mem_cons_self)
        · rename_i hMarked
          have hName := isName_of_notMem hNe hSeparator (cutAt_eq_none_iff.mp hMarked) hDelimiter
          exact .ok ⟨rfl, hName, fun _ => rfl, by simp⟩
    | some split =>
      obtain ⟨name, digits⟩ := split
      obtain ⟨rfl, hSeparator⟩ := cutAt_eq_some hCut
      have hBefore : delimiter ∉ name := fun h => hDelimiter (List.mem_append_left _ h)
      have hDigits : delimiter ∉ digits := fun h =>
        hDelimiter (List.mem_append_right _ (List.mem_cons_of_mem _ h))
      rw [List.append_assoc, List.cons_append]
      dsimp only
      split
      · rename_i hEmpty
        rw [hEmpty, List.nil_append]
        exact .error (.emptyName (by simp))
      · rename_i hNe
        split
        · rename_i before behind hMarked
          exact .error (.of_cutAt hSeparator hBefore hMarked (by simp))
        · rename_i hMarked
          have hName := isName_of_notMem hNe hSeparator (cutAt_eq_none_iff.mp hMarked) hBefore
          split
          · rename_i index hIndex
            refine .ok ⟨rfl, hName, by simp, ?_⟩
            intro found hFound
            cases hFound
            exact hIndex
          · rename_i offset kind hIndex
            exact .error (.index hName hDigits (.of_readIndex hIndex))

theorem Flaw.of_read {start automatic position : Nat} {rest : Text} {kind : SyntaxError.Kind}
    (hSingle : rest.head? ≠ some delimiter)
    (h : Placeholder.read start automatic rest = .error (position, kind)) :
    Flaw start rest position kind := by
  have hReads := reads hSingle start automatic
  rw [h] at hReads
  cases hReads with
  | error hFlaw => exact hFlaw

theorem fits_of_read {start automatic : Nat} {rest after : Text} {p : Placeholder}
    (h : Placeholder.read start automatic rest = .ok (p, after)) : p.Fits start automatic := by
  -- A doubled delimiter is read as an empty name.
  have hSingle : rest.head? ≠ some delimiter := by
    intro hHead
    obtain ⟨more, rfl⟩ := List.head?_eq_some_iff.mp hHead
    simp [Placeholder.read, cutAt] at h
  have hReads := reads hSingle start automatic
  rw [h] at hReads
  cases hReads with
  | ok hFits => exact hFits

/-- Behind a name and a separator, everything up to the next delimiter is read as an index. -/
theorem read_digits (start automatic : Nat) {name digits : Text} (hName : IsName name)
    (hDigits : delimiter ∉ digits) (after : Text) :
    Placeholder.read start automatic
        (name ++ nameSeparator :: (digits ++ delimiter :: after)) =
      match readIndex digits with
      | .ok index => .ok (⟨start, name, some digits, index⟩, after)
      | .error (offset, kind) => .error (start + 1 + byteLength name + 1 + offset, kind) := by
  have hDelimiter : delimiter ∉ name := hName.notMem rfl
  have hBody : delimiter ∉ name ++ nameSeparator :: digits := by
    have hNe : delimiter ≠ nameSeparator := by decide
    simp [hDelimiter, hNe, hDigits]
  have hText : name ++ nameSeparator :: (digits ++ delimiter :: after) =
      (name ++ nameSeparator :: digits) ++ delimiter :: after := by simp
  have hSeparator : nameSeparator ∉ name := hName.notMem rfl
  have hMarker : cutAt errorMarker name = none := cutAt_eq_none_iff.mpr (hName.notMem rfl)
  rw [hText, Placeholder.read, cutAt_append hBody]
  cases hIndex : readIndex digits with
  | ok => simp only [cutAt_append hSeparator, hName.ne_nil, hMarker, hIndex, if_false]
  | error => simp only [cutAt_append hSeparator, hName.ne_nil, hMarker, hIndex, if_false]

theorem Fits.read {start automatic : Nat} {p : Placeholder}
    (h : p.Fits start automatic) (after : Text) :
    ∃ rest, p.source ++ after = delimiter :: rest ∧ rest.head? ≠ some delimiter ∧
      Placeholder.read start automatic rest = .ok (p, after) := by
  obtain ⟨position, name, digits?, index⟩ := p
  obtain ⟨rfl, hName, hAutomatic, hIndex⟩ := h
  dsimp only at hName hAutomatic hIndex
  cases digits? with
  | none =>
    obtain rfl := hAutomatic rfl
    have hDelimiter : delimiter ∉ name := hName.notMem rfl
    have hMarker : cutAt errorMarker name = none := cutAt_eq_none_iff.mpr (hName.notMem rfl)
    have hSeparator : cutAt nameSeparator name = none := cutAt_eq_none_iff.mpr (hName.notMem rfl)
    refine ⟨name ++ delimiter :: after, by simp [Placeholder.source],
      hName.head?_append_ne rfl _, ?_⟩
    simp [Placeholder.read, cutAt_append hDelimiter, hSeparator, hName.ne_nil, hMarker]
  | some digits =>
    have hRead := hIndex digits rfl
    have hDigits := (readIndex_eq_ok_iff.mp hRead).1.delimiter_notMem
    refine ⟨name ++ nameSeparator :: (digits ++ delimiter :: after),
      by simp [Placeholder.source], hName.head?_append_ne rfl _, ?_⟩
    rw [read_digits position automatic hName hDigits, hRead]

theorem read_eq_ok_iff {start automatic : Nat} {rest after : Text}
    {p : Placeholder} :
    Placeholder.read start automatic rest = .ok (p, after) ↔
      p.Fits start automatic ∧ delimiter :: rest = p.source ++ after := by
  constructor
  · intro h
    exact ⟨fits_of_read h, source_of_read h⟩
  · rintro ⟨hFits, hSource⟩
    obtain ⟨found, hFound, -, hRead⟩ := hFits.read after
    rw [← hSource] at hFound
    cases hFound
    exact hRead

end Placeholder

end LogMarkup
