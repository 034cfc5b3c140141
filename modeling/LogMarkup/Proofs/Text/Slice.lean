import LogMarkup.Text

/-!
# Slices of texts

A slice is what stands between two byte offsets. There is one only if the offsets are in order
and neither of them falls into a character.

* `isBoundary_iff`: the offsets of the ends of first parts.
* `slice?`, and `slice?_eq_some_iff`: a slice is the middle part between parts of the right
  lengths.
-/

namespace LogMarkup

theorem byteLength_eq_zero_iff {t : Text} : byteLength t = 0 ↔ t = [] := by
  cases t with
  | nil => simp
  | cons c rest =>
    have hPos := c.utf8Size_pos
    rw [byteLength_cons]
    constructor
    · intro h
      omega
    · intro h
      cases h

theorem isBoundary_iff {t : Text} {n : Nat} :
    IsBoundary t n ↔ ∃ before after, t = before ++ after ∧ byteLength before = n := by
  constructor
  · intro h
    exact ⟨_, _, (splitAtByte_append t n).symm, h⟩
  · rintro ⟨before, after, rfl, rfl⟩
    rw [IsBoundary, splitAtByte_byteLength]

/-- The text from a byte offset up to another. `none` if they are not in order, or if one of them
is past the end or inside a character. -/
def slice? (t : Text) (start stop : Nat) : Option Text :=
  if start ≤ stop ∧ IsBoundary t start ∧ IsBoundary t stop then
    some (splitAtByte (splitAtByte t stop).1 start).2
  else none

/-- Of two first parts of a text the shorter is a first part of the longer. -/
theorem exists_append_of_byteLength_le {s t u v : Text} (h : s ++ t = u ++ v)
    (hLe : byteLength s ≤ byteLength u) : ∃ middle, u = s ++ middle := by
  rcases List.append_eq_append_iff.mp h with ⟨middle, hu, -⟩ | ⟨middle, hs, -⟩
  · exact ⟨middle, hu⟩
  · have hZero : byteLength middle = 0 := by
      rw [hs, byteLength_append] at hLe
      omega
    rw [byteLength_eq_zero_iff.mp hZero, List.append_nil] at hs
    exact ⟨[], by rw [hs, List.append_nil]⟩

theorem slice?_eq_none_of_not_isBoundary {t : Text} {start stop : Nat} (h : ¬ IsBoundary t stop) :
    slice? t start stop = none := if_neg fun hBounds => h hBounds.2.2

theorem slice?_eq_none_of_lt {t : Text} {start stop : Nat} (h : byteLength t < stop) :
    slice? t start stop = none := by
  apply slice?_eq_none_of_not_isBoundary
  intro hStop
  obtain ⟨before, after, rfl, rfl⟩ := isBoundary_iff.mp hStop
  rw [byteLength_append] at h
  omega

theorem slice?_eq_some_iff {t u : Text} {start stop : Nat} :
    slice? t start stop = some u ↔
      ∃ before after, t = before ++ u ++ after ∧ byteLength before = start ∧
        start + byteLength u = stop := by
  constructor
  · intro h
    unfold slice? at h
    split at h
    · rename_i hBounds
      obtain ⟨hLe, hStart, hStop⟩ := hBounds
      obtain ⟨before, rest, hBefore, rfl⟩ := isBoundary_iff.mp hStart
      obtain ⟨front, after, rfl, rfl⟩ := isBoundary_iff.mp hStop
      obtain ⟨middle, rfl⟩ := exists_append_of_byteLength_le hBefore.symm hLe
      rw [splitAtByte_byteLength, splitAtByte_byteLength] at h
      cases h
      exact ⟨before, after, rfl, rfl, (byteLength_append before middle).symm⟩
    · cases h
  · rintro ⟨before, after, rfl, rfl, rfl⟩
    have hStart : IsBoundary (before ++ u ++ after) (byteLength before) :=
      isBoundary_iff.mpr ⟨before, u ++ after, List.append_assoc .., rfl⟩
    have hStop : IsBoundary (before ++ u ++ after) (byteLength (before ++ u)) :=
      isBoundary_iff.mpr ⟨before ++ u, after, rfl, rfl⟩
    rw [← byteLength_append]
    unfold slice?
    rw [if_pos ⟨by simp, hStart, hStop⟩, splitAtByte_byteLength, splitAtByte_byteLength]

end LogMarkup
