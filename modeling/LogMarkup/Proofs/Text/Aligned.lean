import LogMarkup.Decimal.Natural
import LogMarkup.Proofs.Text.Slice
import Mathlib.Algebra.Group.Nat.Defs
import Mathlib.Data.Int.Order.Basic
import Mathlib.Data.Nat.Basic
import Mathlib.Order.Compare
import Mathlib.Order.Lattice

/-!
# Texts that line up

Where fields of fixed width stand one behind the other, two texts are ordered by the first field
in which they differ, and within it by the first digit. With zeros in front up to a fixed width,
numerals are in the order of their numbers.

* `compare_eq_then`: what is compared by one part first and then by another.
* `Aligned`, `Aligned.append`: texts of one length and their order, field by field.
* `aligned_paddedDecimal`: numerals of a fixed width.
-/

namespace LogMarkup

/-! ## Comparing part by part -/

section

variable {α β : Type} [LinearOrder α] [LinearOrder β]

theorem compare_congr {x y : α} {r s : β} (hLess : x < y ↔ r < s) (hGreater : y < x ↔ s < r) :
    compare x y = compare r s := by
  rcases lt_trichotomy r s with hLt | hEq | hGt
  · rw [compare_lt_iff_lt.mpr hLt, compare_lt_iff_lt.mpr (hLess.mpr hLt)]
  · have hNotLess : ¬ x < y := fun h => (hLess.mp h).ne hEq
    have hNotGreater : ¬ y < x := fun h => (hGreater.mp h).ne' hEq
    rw [compare_eq_iff_eq.mpr hEq,
      compare_eq_iff_eq.mpr (le_antisymm (not_lt.mp hNotGreater) (not_lt.mp hNotLess))]
  · rw [compare_gt_iff_gt.mpr hGt, compare_gt_iff_gt.mpr (hGreater.mpr hGt)]

/-- What is compared by one part first, and by the rest if that is the same. -/
theorem compare_eq_then {x y : α} {a b : β} {o : Ordering} (hLess : a < b → x < y)
    (hGreater : b < a → y < x) (hRest : a = b → compare x y = o) :
    compare x y = (compare a b).then o := by
  rcases lt_trichotomy a b with hLt | hEq | hGt
  · rw [compare_lt_iff_lt.mpr hLt, compare_lt_iff_lt.mpr (hLess hLt)]
    rfl
  · rw [compare_eq_iff_eq.mpr hEq, hRest hEq]
    rfl
  · rw [compare_gt_iff_gt.mpr hGt, compare_gt_iff_gt.mpr (hGreater hGt)]
    rfl

end

/-- A part that follows from the first has no say. -/
theorem then_eq_self {o o' : Ordering} (h : o = .eq → o' = .eq) : o.then o' = o := by
  cases o with
  | eq => exact h rfl
  | lt => rfl
  | gt => rfl

/-! ## Texts of one length -/

/-- The texts are of one length, and their order is the given one. -/
structure Aligned (o : Ordering) (s t : Text) : Prop where
  byteLength_eq : byteLength s = byteLength t
  lt_iff : s < t ↔ o = .lt
  eq_iff : s = t ↔ o = .eq

theorem append_lt_append_iff {s t : Text} (h : byteLength s = byteLength t) (s' t' : Text) :
    s ++ s' < t ++ t' ↔ s < t ∨ s = t ∧ s' < t' := by
  induction s generalizing t with
  | nil =>
    obtain rfl := byteLength_eq_zero_iff.mp h.symm
    simp
  | cons c s ih =>
    cases t with
    | nil => cases byteLength_eq_zero_iff.mp h
    | cons d t =>
      simp only [List.cons_append, List.cons_lt_cons_iff]
      by_cases hc : c = d
      · subst hc
        have hRest : byteLength s = byteLength t := by simpa using h
        rw [ih hRest]
        simp
      · simp [hc]

theorem append_eq_append_iff_of_byteLength {s t : Text} (h : byteLength s = byteLength t)
    (s' t' : Text) : s ++ s' = t ++ t' ↔ s = t ∧ s' = t' := by
  constructor
  · intro hText
    have hSplit := splitAtByte_byteLength s s'
    rw [hText, h, splitAtByte_byteLength] at hSplit
    cases hSplit
    exact ⟨rfl, rfl⟩
  · rintro ⟨rfl, rfl⟩
    rfl

namespace Aligned

theorem refl (t : Text) : Aligned .eq t t := ⟨rfl, by simp, by simp⟩

theorem append {o o' : Ordering} {s t s' t' : Text} (h : Aligned o s t) (h' : Aligned o' s' t') :
    Aligned (o.then o') (s ++ s') (t ++ t') where
  byteLength_eq := by rw [byteLength_append, byteLength_append, h.byteLength_eq, h'.byteLength_eq]
  lt_iff := by
    rw [append_lt_append_iff h.byteLength_eq, h.lt_iff, h.eq_iff, h'.lt_iff, Ordering.then_eq_lt]
  eq_iff := by
    rw [append_eq_append_iff_of_byteLength h.byteLength_eq, h.eq_iff, h'.eq_iff,
      Ordering.then_eq_eq]

end Aligned

/-- Any two texts of one length have an order. -/
theorem exists_aligned {s t : Text} (h : byteLength s = byteLength t) : ∃ o, Aligned o s t := by
  by_cases hEq : s = t
  · exact ⟨.eq, hEq ▸ .refl s⟩
  · by_cases hLt : s < t
    · exact ⟨.lt, h, by simp [hLt], by simp [hEq]⟩
    · exact ⟨.gt, h, by simp [hLt], by simp [hEq]⟩

/-! ## Numerals -/

theorem aligned_digitChar {m n : Nat} (hm : m < 10) (hn : n < 10) :
    Aligned (compare m n) [m.digitChar] [n.digitChar] := by
  have hDigits : ∀ m < 10, ∀ n < 10,
      byteLength [Nat.digitChar m] = byteLength [Nat.digitChar n] ∧
        ([Nat.digitChar m] < [Nat.digitChar n] ↔ compare m n = .lt) ∧
        ([Nat.digitChar m] = [Nat.digitChar n] ↔ compare m n = .eq) := by decide
  obtain ⟨hLength, hLt, hEq⟩ := hDigits m hm n hn
  exact ⟨hLength, hLt, hEq⟩

theorem paddedDecimal_succ {width : Nat} (h : 1 ≤ width) (n : Nat) :
    paddedDecimal (width + 1) n = paddedDecimal width (n / 10) ++ [(n % 10).digitChar] := by
  unfold paddedDecimal leadingZeros decimal
  by_cases hn : n < 10
  · have hQuotient : n / 10 = 0 := by omega
    obtain ⟨zeros, rfl⟩ : ∃ zeros, width = zeros + 1 := ⟨width - 1, by omega⟩
    rw [hQuotient, Nat.mod_eq_of_lt hn, Nat.toDigits_of_lt_base hn,
      Nat.toDigits_of_lt_base (by decide)]
    simp [List.replicate_succ']
  · rw [Nat.toDigits_of_base_le (by decide) (by omega)]
    simp [Nat.add_sub_add_right]

theorem aligned_paddedDecimal {width m n : Nat} (hWidth : 1 ≤ width) (hm : m < 10 ^ width)
    (hn : n < 10 ^ width) :
    Aligned (compare m n) (paddedDecimal width m) (paddedDecimal width n) := by
  induction width, hWidth using Nat.le_induction generalizing m n with
  | base =>
    have hDigit : ∀ k < 10, paddedDecimal 1 k = [k.digitChar] := by decide
    rw [hDigit m (by omega), hDigit n (by omega)]
    exact aligned_digitChar (by omega) (by omega)
  | succ width hWidth ih =>
    rw [Nat.pow_succ] at hm hn
    have hLess : m / 10 < n / 10 → m < n := by omega
    have hGreater : n / 10 < m / 10 → n < m := by omega
    have hRest : m / 10 = n / 10 → compare m n = compare (m % 10) (n % 10) := fun h =>
      compare_congr (by omega) (by omega)
    have hParts : compare m n = (compare (m / 10) (n / 10)).then (compare (m % 10) (n % 10)) :=
      compare_eq_then hLess hGreater hRest
    rw [hParts, paddedDecimal_succ hWidth, paddedDecimal_succ hWidth]
    exact (ih (by omega) (by omega)).append
      (aligned_digitChar (Nat.mod_lt _ (by decide)) (Nat.mod_lt _ (by decide)))

end LogMarkup
