import Mathlib.Algebra.Group.Nat.Defs
import Mathlib.Tactic.SplitIfs
import LogMarkup.TextMap

/-!
# The order of texts by bytes

Texts are ordered character by character. Their UTF-8 forms, ordered byte by byte, stand in the
same order: the form of a character is a numeral to the base 64 behind a first byte that grows
with the number of digits, so smaller characters have smaller forms, whatever follows.

* `numeral_append_lt`: numerals of one length are ordered like their numbers.
* `utf8_lt_utf8_iff`: texts are ordered like their UTF-8 forms.
-/

namespace LogMarkup

/-! ## Numerals -/

/-- A number to the base 64, with `count` digits behind the first one. The first digit is raised
by `mark`, the others by that of continuation bytes. -/
def numeral (mark : Nat) : Nat → Nat → List UInt8
  | 0, v => [UInt8.ofNat (v + mark)]
  | count + 1, v => numeral mark count (v / 64) ++ [UInt8.ofNat (v % 64 + 0x80)]

theorem numeral_append_lt {mark count m n : Nat} (h : m < n) (hByte : n / 64 ^ count + mark < 256)
    (s t : List UInt8) : numeral mark count m ++ s < numeral mark count n ++ t := by
  induction count generalizing m n s t with
  | zero =>
    rw [Nat.pow_zero, Nat.div_one] at hByte
    refine List.cons_lt_cons_iff.mpr (.inl ?_)
    rw [UInt8.lt_iff_toNat_lt, UInt8.toNat_ofNat', UInt8.toNat_ofNat']
    omega
  | succ count ih =>
    rw [Nat.pow_succ', ← Nat.div_div_eq_div_mul] at hByte
    rw [numeral, numeral, List.append_assoc, List.append_assoc]
    by_cases hFront : m / 64 < n / 64
    · exact ih hFront hByte _ _
    · have hSame : m / 64 = n / 64 := by omega
      rw [hSame]
      refine List.append_left_lt (List.cons_lt_cons_iff.mpr (.inl ?_))
      rw [UInt8.lt_iff_toNat_lt, UInt8.toNat_ofNat', UInt8.toNat_ofNat']
      omega

theorem exists_numeral_eq_cons (mark count v : Nat) :
    ∃ bytes, numeral mark count v = UInt8.ofNat (v / 64 ^ count + mark) :: bytes := by
  induction count generalizing v with
  | zero => exact ⟨[], by simp [numeral]⟩
  | succ count ih =>
    obtain ⟨bytes, hBytes⟩ := ih (v / 64)
    refine ⟨bytes ++ [UInt8.ofNat (v % 64 + 0x80)], ?_⟩
    rw [numeral, hBytes, Nat.pow_succ', Nat.div_div_eq_div_mul, List.cons_append]

/-! ## Characters -/

/-- The number of continuation bytes of a character with the given code. -/
def continuations (v : Nat) : Nat :=
  if v ≤ 0x7f then 0 else if v ≤ 0x7ff then 1 else if v ≤ 0xffff then 2 else 3

/-- What the first byte of a character is raised by. -/
def leadMark : Nat → Nat
  | 0 => 0
  | 1 => 0xc0
  | 2 => 0xe0
  | _ => 0xf0

/-- The first byte of a character with the given code. -/
def leadByte (v : Nat) : Nat := v / 64 ^ continuations v + leadMark (continuations v)

theorem leadByte_lt {v : Nat} (h : v < 0x110000) : leadByte v < 256 := by
  unfold leadByte continuations
  split_ifs <;> simp only [leadMark] <;> omega

theorem leadByte_lt_leadByte {m n : Nat} (h : m < n) (hBound : n < 0x110000)
    (hLength : continuations m ≠ continuations n) : leadByte m < leadByte n := by
  unfold continuations at hLength
  unfold leadByte continuations
  split_ifs at hLength ⊢ <;> simp only [leadMark] <;> omega

theorem val_toNat_lt (c : Char) : c.val.toNat < 0x110000 := by
  rcases c.valid with hLow | hHigh
  · exact Nat.lt_trans hLow (by decide)
  · exact hHigh.2

theorem utf8EncodeChar_eq_numeral (c : Char) :
    String.utf8EncodeChar c =
      numeral (leadMark (continuations c.val.toNat)) (continuations c.val.toNat) c.val.toNat := by
  have hBound := val_toNat_lt c
  unfold String.utf8EncodeChar continuations
  generalize c.val.toNat = v at hBound
  have hTwo : v / 64 / 64 = v / 4096 := by omega
  have hThree : v / 64 / 64 / 64 = v / 262144 := by omega
  dsimp only
  split_ifs
  · rfl
  · rw [Nat.mod_eq_of_lt (show v / 64 < 0x20 by omega)]
    rfl
  · rw [Nat.mod_eq_of_lt (show v / 4096 < 0x10 by omega), ← hTwo]
    rfl
  · rw [Nat.mod_eq_of_lt (show v / 262144 < 0x08 by omega), ← hThree, ← hTwo]
    rfl

theorem exists_utf8EncodeChar_eq_cons (c : Char) :
    ∃ bytes, String.utf8EncodeChar c = UInt8.ofNat (leadByte c.val.toNat) :: bytes := by
  rw [utf8EncodeChar_eq_numeral]
  exact exists_numeral_eq_cons _ _ _

/-- The bytes of a character decide the order before anything behind them does. -/
theorem utf8EncodeChar_append_lt {c d : Char} (h : c < d) (s t : List UInt8) :
    String.utf8EncodeChar c ++ s < String.utf8EncodeChar d ++ t := by
  have hCodes : c.val.toNat < d.val.toNat := h
  have hBound := val_toNat_lt d
  by_cases hLength : continuations c.val.toNat = continuations d.val.toNat
  · rw [utf8EncodeChar_eq_numeral, utf8EncodeChar_eq_numeral, hLength]
    exact numeral_append_lt hCodes (leadByte_lt hBound) s t
  · obtain ⟨first, hFirst⟩ := exists_utf8EncodeChar_eq_cons c
    obtain ⟨second, hSecond⟩ := exists_utf8EncodeChar_eq_cons d
    have hLead := leadByte_lt_leadByte hCodes hBound hLength
    have hByte := leadByte_lt hBound
    rw [hFirst, hSecond]
    refine List.cons_lt_cons_iff.mpr (.inl ?_)
    rw [UInt8.lt_iff_toNat_lt, UInt8.toNat_ofNat', UInt8.toNat_ofNat']
    omega

/-! ## Texts -/

/-- The bytes of the UTF-8 form. -/
def utf8 (t : Text) : List UInt8 := t.flatMap String.utf8EncodeChar

@[simp] theorem utf8_cons (c : Char) (t : Text) :
    utf8 (c :: t) = String.utf8EncodeChar c ++ utf8 t := List.flatMap_cons

theorem utf8_lt_utf8 {s t : Text} (h : s < t) : utf8 s < utf8 t := by
  induction s generalizing t with
  | nil =>
    cases t with
    | nil => exact absurd h (List.lt_irrefl [])
    | cons d t =>
      have hSome : utf8 (d :: t) ≠ [] := by simp [String.utf8EncodeChar_ne_nil]
      obtain ⟨b, bytes, hBytes⟩ := List.exists_cons_of_ne_nil hSome
      rw [hBytes]
      exact List.nil_lt_cons b bytes
  | cons c s ih =>
    cases t with
    | nil => exact absurd h (List.not_lt_nil _)
    | cons d t =>
      rw [utf8_cons, utf8_cons]
      rcases List.cons_lt_cons_iff.mp h with hHead | ⟨rfl, hTail⟩
      · exact utf8EncodeChar_append_lt hHead _ _
      · exact List.append_left_lt (ih hTail)

theorem utf8_lt_utf8_iff {s t : Text} : utf8 s < utf8 t ↔ s < t := by
  refine ⟨fun h => ?_, utf8_lt_utf8⟩
  rcases Std.lt_trichotomy s t with hLt | rfl | hGt
  · exact hLt
  · exact absurd h (List.lt_irrefl _)
  · exact absurd h (List.lt_asymm (utf8_lt_utf8 hGt))

end LogMarkup
