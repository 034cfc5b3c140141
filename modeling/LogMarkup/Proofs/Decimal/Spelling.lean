import LogMarkup.Proofs.Template.Numbered

/-!
# Spellings of numbers

The texts of decimal digits that denote a number are its numeral and the numeral with zeros in
front. So the numeral is the only one of them in which no zero stands in front of another digit,
and what an explicit index says is read from each of them.

* `exists_zeros`: digits are zeros and a numeral.
* `readIndex_eq_ok_iff_zeros`: the explicit indices of a number.
* `readIndex_unpadded_iff`: the only one without superfluous zeros.
* `readSigned_signedDecimal`: numerals of integers.
-/

namespace LogMarkup

/-! ## Digits behind a numeral -/

theorem digit_bounds {c : Char} (h : isDecimalDigit c = true) :
    c.toNat - '0'.toNat < 10 ∧ (0 < c.toNat - '0'.toNat ∨ c = '0') := by
  obtain ⟨hZero, hNine⟩ : 48 ≤ c.toNat ∧ c.toNat ≤ 57 := isDecimalDigit_iff.mp h
  have hCode : '0'.toNat = 48 := rfl
  refine ⟨by omega, ?_⟩
  by_cases hc : c.toNat = 48
  · exact .inr (Char.toNat_inj.mp hc)
  · exact .inl (by omega)

/-- A digit is the numeral of its number. -/
theorem decimal_digit {c : Char} (h : isDecimalDigit c = true) :
    decimal (c.toNat - '0'.toNat) = [c] := by
  obtain ⟨hZero, hNine⟩ : 48 ≤ c.toNat ∧ c.toNat ≤ 57 := isDecimalDigit_iff.mp h
  have hCode : '0'.toNat = 48 := rfl
  rw [decimal, Nat.toDigits_of_lt_base (digit_bounds h).1, List.cons.injEq, and_iff_left rfl,
    ← Char.toNat_inj, Nat.toNat_digitChar_of_lt_ten (digit_bounds h).1]
  omega

theorem decimal_append_digit {value : Nat} {c : Char} (hValue : 0 < value)
    (h : isDecimalDigit c = true) :
    decimal value ++ [c] = decimal (10 * value + (c.toNat - '0'.toNat)) := by
  rw [← decimal_digit h]
  exact Nat.toDigits_append_toDigits (by decide) hValue (digit_bounds h).1

theorem decimal_append {value : Nat} {digits : Text} (hValue : 0 < value)
    (hDigits : ∀ c ∈ digits, isDecimalDigit c = true) :
    decimal value ++ digits = decimal (Nat.ofDigitChars 10 digits value) := by
  induction digits generalizing value with
  | nil => rw [List.append_nil, Nat.ofDigitChars_nil]
  | cons c rest ih =>
    obtain ⟨hc, hRest⟩ := List.forall_mem_cons.mp hDigits
    rw [Nat.ofDigitChars_cons, ← ih (by omega) hRest, ← decimal_append_digit hValue hc,
      List.append_assoc, List.singleton_append]

/-! ## Zeros in front -/

theorem readDecimal_zero_cons (digits : Text) : readDecimal ('0' :: digits) = readDecimal digits :=
  Nat.ofDigitChars_cons

theorem readDecimal_zeros_append (zeros : Nat) (digits : Text) :
    readDecimal (List.replicate zeros '0' ++ digits) = readDecimal digits := by
  induction zeros with
  | zero => rfl
  | succ zeros ih => rw [List.replicate_succ, List.cons_append, readDecimal_zero_cons, ih]

/-- Digits are the numeral of their number, with zeros in front. -/
theorem exists_zeros {digits : Text} (hNe : digits ≠ [])
    (hDigits : ∀ c ∈ digits, isDecimalDigit c = true) :
    ∃ zeros, digits = List.replicate zeros '0' ++ decimal (readDecimal digits) := by
  induction digits with
  | nil => exact absurd rfl hNe
  | cons c rest ih =>
    obtain ⟨hc, hRest⟩ := List.forall_mem_cons.mp hDigits
    obtain hPositive | rfl := (digit_bounds hc).2
    · refine ⟨0, ?_⟩
      rw [readDecimal, Nat.ofDigitChars_cons, Nat.mul_zero, Nat.zero_add,
        ← decimal_append hPositive hRest, decimal_digit hc]
      rfl
    · by_cases hLast : rest = []
      · subst hLast
        exact ⟨0, rfl⟩
      · obtain ⟨zeros, hZeros⟩ := ih hLast hRest
        refine ⟨zeros + 1, ?_⟩
        rw [readDecimal_zero_cons, List.replicate_succ, List.cons_append, ← hZeros]

/-! ## Explicit indices -/

theorem isIndex_zeros_append {n : Nat} (h : n ≤ maxIndex) (zeros : Nat) :
    IsIndex (List.replicate zeros '0' ++ decimal n) where
  ne_nil := List.append_ne_nil_of_right_ne_nil _ (isIndex_decimal h).ne_nil
  isDecimalDigit c hc := by
    rcases List.mem_append.mp hc with hZero | hDigit
    · rw [List.eq_of_mem_replicate hZero]
      rfl
    · exact isDecimalDigit_of_mem_decimal hDigit
  le_maxIndex := by rwa [readDecimal_zeros_append, readDecimal_decimal]

/-- An index may have any number of zeros in front. -/
theorem readIndex_eq_ok_iff_zeros {digits : Text} {n : Nat} :
    readIndex digits = .ok n ↔
      n ≤ maxIndex ∧ ∃ zeros, digits = List.replicate zeros '0' ++ decimal n := by
  rw [readIndex_eq_ok_iff]
  constructor
  · rintro ⟨hIndex, rfl⟩
    exact ⟨hIndex.le_maxIndex, exists_zeros hIndex.ne_nil hIndex.isDecimalDigit⟩
  · rintro ⟨hn, zeros, rfl⟩
    refine ⟨isIndex_zeros_append hn zeros, ?_⟩
    rw [readDecimal_zeros_append, readDecimal_decimal]

/-- No zero stands in front of another digit. -/
def IsUnpadded (digits : Text) : Prop := ∀ rest, digits = '0' :: rest → rest = []

theorem isUnpadded_decimal (n : Nat) : IsUnpadded (decimal n) := by
  intro rest h
  by_contra hRest
  have hDigits : ∀ c ∈ rest, isDecimalDigit c = true := fun c hc =>
    isDecimalDigit_of_mem_decimal (n := n) (by rw [h]; exact List.mem_cons_of_mem _ hc)
  have hValue : readDecimal rest = n := by
    rw [← readDecimal_zero_cons, ← h, readDecimal_decimal]
  -- The numeral would be a part of itself.
  obtain ⟨zeros, hZeros⟩ := exists_zeros hRest hDigits
  have hLength := congrArg List.length h
  rw [hZeros, hValue, List.length_cons, List.length_append] at hLength
  omega

/-- The numeral is the only index of its number without superfluous zeros. -/
theorem readIndex_unpadded_iff {digits : Text} {n : Nat} (h : n ≤ maxIndex) :
    readIndex digits = .ok n ∧ IsUnpadded digits ↔ digits = decimal n := by
  rw [readIndex_eq_ok_iff_zeros, and_iff_right h]
  constructor
  · rintro ⟨⟨zeros, rfl⟩, hUnpadded⟩
    cases zeros with
    | zero => rfl
    | succ zeros =>
      rw [List.replicate_succ, List.cons_append] at hUnpadded
      have hNil := List.append_eq_nil_iff.mp (hUnpadded _ rfl)
      exact absurd hNil.2 (isIndex_decimal h).ne_nil
  · rintro rfl
    exact ⟨⟨0, rfl⟩, isUnpadded_decimal n⟩

/-! ## Integers -/

def isNumeral (t : Text) : Bool := !t.isEmpty && t.all isDecimalDigit

/-- The integer that digits denote, with a minus sign in front or without one. -/
def readSigned : Text → Option Int
  | '-' :: digits => if isNumeral digits then some (-(readDecimal digits : Int)) else none
  | digits => if isNumeral digits then some (readDecimal digits) else none

theorem isNumeral_decimal (n : Nat) : isNumeral (decimal n) = true := by
  have hNe : decimal n ≠ [] := Nat.toDigits_ne_nil
  rw [isNumeral, Bool.and_eq_true, List.all_eq_true]
  exact ⟨by simpa using hNe, fun c hc => isDecimalDigit_of_mem_decimal hc⟩

theorem readSigned_decimal (n : Nat) : readSigned (decimal n) = some (n : Int) := by
  have hMinus : ∀ digits, decimal n ≠ '-' :: digits := by
    intro digits h
    have hDigit : isDecimalDigit '-' = true :=
      isDecimalDigit_of_mem_decimal (n := n) (by rw [h]; exact List.mem_cons_self)
    cases hDigit
  rw [readSigned, if_pos (isNumeral_decimal n), readDecimal_decimal]
  exact hMinus

theorem readSigned_signedDecimal (i : Int) : readSigned (signedDecimal i) = some i := by
  unfold signedDecimal
  split
  · rw [readSigned, if_pos (isNumeral_decimal _), readDecimal_decimal]
    congr 1
    omega
  · rw [readSigned_decimal]
    congr 1
    omega

end LogMarkup
