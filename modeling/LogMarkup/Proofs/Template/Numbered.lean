import LogMarkup.Proofs.Template.Scanning

/-!
# Templates with all indices written out

A placeholder without an explicit index can be given the index that it gets, in decimal. The
automatic indices then have nothing to count any more, and every offset behind the first such
placeholder moves, but the parts are those that they were.

* `Template.numbered`: the template with its indices written out.
* `tiled_placedFrom`: its parts are the old ones at new offsets.
* `Template.scan_numbered`: so it is a template, if its indices are in range. In a text that is no
  longer than the largest index they are (`Tiled.index_le_maxIndex`).
* `Template.zipIdx_automatic`: automatic indices count the placeholders without explicit ones.
-/

namespace LogMarkup

/-! ## Indices written out -/

/-- The placeholder with its index written out. -/
def Placeholder.numbered (p : Placeholder) : Placeholder :=
  { p with digits := some (p.digits.getD (decimal p.index)) }

def Part.numbered : Part → Part
  | .literal t => .literal t
  | .placeholder p => .placeholder p.numbered

/-- The text of the template with the index of each placeholder written out. -/
def Template.numbered (t : Template) : Text := sourceOf (t.parts.map Part.numbered)

/-- The part at another byte offset. -/
def Part.movedTo (start : Nat) : Part → Part
  | .literal t => .literal t
  | .placeholder p => .placeholder { p with start }

/-- The parts one behind the other from a byte offset on. -/
def placedFrom (start : Nat) : List Part → List Part
  | [] => []
  | part :: rest => part.movedTo start :: placedFrom (start + byteLength part.source) rest

@[simp] theorem Part.source_movedTo (start : Nat) (part : Part) :
    (part.movedTo start).source = part.source := by
  cases part <;> rfl

theorem Part.numbered_numbered (part : Part) : part.numbered.numbered = part.numbered := by
  cases part <;> rfl

theorem Part.numbered_movedTo (start : Nat) (part : Part) :
    (part.movedTo start).numbered = part.numbered.movedTo start := by
  cases part <;> rfl

theorem sourceOf_placedFrom (start : Nat) (parts : List Part) :
    sourceOf (placedFrom start parts) = sourceOf parts := by
  induction parts generalizing start with
  | nil => rfl
  | cons part rest ih => rw [placedFrom, sourceOf_cons, Part.source_movedTo, ih, sourceOf_cons]

/-- Nothing is left to be written out, wherever the parts are. -/
theorem sourceOf_numbered_placedFrom (start : Nat) (parts : List Part) :
    sourceOf ((placedFrom start (parts.map Part.numbered)).map Part.numbered) =
      sourceOf (parts.map Part.numbered) := by
  induction parts generalizing start with
  | nil => rfl
  | cons part rest ih =>
    rw [List.map_cons, placedFrom, List.map_cons, sourceOf_cons, ih, Part.numbered_movedTo,
      Part.source_movedTo, Part.numbered_numbered, sourceOf_cons]

/-! ## The parts of the new text -/

theorem isDecimalDigit_of_mem_decimal {c : Char} {n : Nat} (h : c ∈ decimal n) :
    isDecimalDigit c = true := by
  have hDigit := Nat.isDigit_of_mem_toDigits (by decide) (by decide) h
  simpa [isDecimalDigit, Char.isDigit, Char.le_def] using hDigit

theorem isIndex_decimal {n : Nat} (h : n ≤ maxIndex) : IsIndex (decimal n) where
  ne_nil := Nat.toDigits_ne_nil
  isDecimalDigit _ hc := isDecimalDigit_of_mem_decimal hc
  le_maxIndex := by rwa [readDecimal_decimal]

/-- A placeholder with its index written out fits anywhere. -/
theorem Placeholder.Fits.numbered {p : Placeholder} {start automatic : Nat}
    (h : p.Fits start automatic) (hIndex : p.index ≤ maxIndex) (offset next : Nat) :
    Placeholder.Fits { p.numbered with start := offset } offset next := by
  obtain ⟨-, hName, hDigits, hValue⟩ := Placeholder.fits_iff.mp h
  refine Placeholder.fits_iff.mpr ⟨rfl, hName, ?_, ?_⟩
  · intro digits hMem
    obtain rfl : p.digits.getD (decimal p.index) = digits := Option.some.inj hMem
    cases hExplicit : p.digits with
    | none => exact isIndex_decimal hIndex
    | some digits => exact hDigits digits hExplicit
  · change p.index = readDecimal (p.digits.getD (decimal p.index))
    cases hExplicit : p.digits with
    | none => exact (readDecimal_decimal p.index).symm
    | some digits => simpa [hExplicit] using hValue

theorem tiled_placedFrom {start automatic : Nat} {parts : List Part}
    (h : Tiled start automatic parts) (hIndex : ∀ p ∈ placeholdersOf parts, p.index ≤ maxIndex)
    (offset next : Nat) : Tiled offset next (placedFrom offset (parts.map Part.numbered)) := by
  induction parts generalizing start automatic offset next with
  | nil => trivial
  | cons part rest ih =>
    cases part with
    | placeholder p =>
      rw [placeholdersOf_placeholder, List.forall_mem_cons] at hIndex
      exact ⟨h.1.numbered hIndex.1 offset next, ih h.2 hIndex.2 _ _⟩
    | literal t =>
      obtain ⟨hNe, hEscaped, hHead, hRest⟩ := h
      refine ⟨hNe, hEscaped, ?_, ih hRest hIndex _ _⟩
      cases rest with
      | nil => simp [placedFrom]
      | cons next more =>
        cases next with
        | literal u => exact absurd (hHead _ rfl) id
        | placeholder p => simp [placedFrom, Part.numbered, Part.movedTo, Part.IsPlaceholder]

/-- Each automatic index takes a placeholder in front, which has a byte at least. -/
theorem Tiled.index_le_maxIndex {start automatic : Nat} {parts : List Part}
    (h : Tiled start automatic parts)
    (hSize : automatic + byteLength (sourceOf parts) ≤ maxIndex) :
    ∀ p ∈ placeholdersOf parts, p.index ≤ maxIndex := by
  induction parts generalizing start automatic with
  | nil => simp
  | cons part rest ih =>
    rw [sourceOf_cons, byteLength_append] at hSize
    cases part with
    | literal t => exact ih h.2.2.2 (by omega)
    | placeholder p =>
      have hByte := p.byteLength_source_pos
      have hNext : p.automaticAfter automatic ≤ automatic + 1 := by
        unfold Placeholder.automaticAfter
        split <;> omega
      rw [Part.source] at hSize
      rw [placeholdersOf_placeholder, List.forall_mem_cons]
      refine ⟨?_, ih h.2 (by omega)⟩
      obtain ⟨-, -, hDigits, hValue⟩ := Placeholder.fits_iff.mp h.1
      cases hExplicit : p.digits with
      | none =>
        rw [hExplicit] at hValue
        have hAutomatic : p.index = automatic := hValue
        omega
      | some digits =>
        rw [hExplicit] at hValue
        rw [hValue]
        exact (hDigits digits hExplicit).le_maxIndex

theorem Template.scan_numbered (t : Template) (hSize : byteLength t.source ≤ maxIndex) :
    scan t.numbered = (placedFrom 0 (t.parts.map Part.numbered), none) := by
  obtain ⟨hTiled, hSource⟩ := scan_eq_ok_iff.mp t.scan_source
  rw [hSource] at hSize
  have hIndex := hTiled.index_le_maxIndex (by omega)
  refine scan_eq_ok_iff.mpr ⟨tiled_placedFrom hTiled hIndex 0 0, ?_⟩
  rw [sourceOf_placedFrom]
  rfl

/-! ## Automatic indices -/

/-- The placeholders without an explicit index. -/
def Template.automatic (t : Template) : List Placeholder :=
  t.placeholders.filter (·.digits.isNone)

/-- Where all indices are written out none is left to be counted. -/
theorem automatic_placedFrom (start : Nat) (parts : List Part) :
    (placeholdersOf (placedFrom start (parts.map Part.numbered))).filter (·.digits.isNone) = [] := by
  induction parts generalizing start with
  | nil => rfl
  | cons part rest ih =>
    cases part with
    | literal t => exact ih _
    | placeholder p =>
      rw [List.map_cons, placedFrom]
      exact (List.filter_cons_of_neg (by simp [Placeholder.numbered])).trans (ih _)

theorem Tiled.zipIdx_automatic {start automatic : Nat} {parts : List Part}
    (h : Tiled start automatic parts) :
    ((placeholdersOf parts).filter (·.digits.isNone)).map (fun p => (p.name, p.index)) =
      (((placeholdersOf parts).filter (·.digits.isNone)).map Placeholder.name).zipIdx
        automatic := by
  induction parts generalizing start automatic with
  | nil => rfl
  | cons part rest ih =>
    cases part with
    | literal t => exact ih h.2.2.2
    | placeholder p =>
      have hRest := ih h.2
      cases hExplicit : p.digits with
      | none =>
        have hIndex : p.index = automatic := h.1.index_of_none hExplicit
        rw [Placeholder.automaticAfter, hExplicit] at hRest
        simp only [placeholdersOf_placeholder, List.filter_cons, hExplicit, Option.isNone_none,
          if_true, List.map_cons, List.zipIdx_cons, hIndex, hRest]
      | some digits =>
        rw [Placeholder.automaticAfter, hExplicit] at hRest
        simpa [hExplicit] using hRest

/-- The placeholders without explicit indices are numbered in their order, whatever is between
them. -/
theorem Template.zipIdx_automatic (t : Template) :
    t.automatic.map (fun p => (p.name, p.index)) =
      (t.automatic.map Placeholder.name).zipIdx :=
  (scan_eq_ok_iff.mp t.scan_source).1.zipIdx_automatic

end LogMarkup
