import LogMarkup.Proofs.Offsets.Scanning

/-!
# Explicit indices in words

An index is kept in a word of 64 bits. Each digit takes a product and a sum, and reading stops
where one of them exceeds a word. So no word ever wraps around, and reading in words gives what
reading in numbers does.

* `checkedMul_eq_some_iff`, `checkedAdd_eq_some_iff`: what is there is the exact number.
* `extendWord_eq_some_iff`: one more digit.
* `map_toNat_readWords`, `map_toNat_readIndexWords`: all digits.
* `IsIndex.product_and_sum_le`: the products and sums on the way to an index.
-/

namespace LogMarkup

/-! ## Products and sums -/

/-- The product, unless it exceeds a word. -/
def checkedMul (a b : UInt64) : Option UInt64 :=
  if a.toNat * b.toNat < UInt64.size then some (a * b) else none

/-- The sum, unless it exceeds a word. -/
def checkedAdd (a b : UInt64) : Option UInt64 :=
  if a.toNat + b.toNat < UInt64.size then some (a + b) else none

theorem checkedMul_eq_some_iff {a b c : UInt64} :
    checkedMul a b = some c ↔ c.toNat = a.toNat * b.toNat := by
  unfold checkedMul
  split
  · rename_i hFits
    rw [Option.some.injEq, ← UInt64.toNat_inj, UInt64.toNat_mul, Nat.mod_eq_of_lt hFits, eq_comm]
  · rename_i hExceeds
    refine iff_of_false (by simp) fun h => hExceeds ?_
    rw [← h]
    exact c.toNat_lt_size

theorem checkedAdd_eq_some_iff {a b c : UInt64} :
    checkedAdd a b = some c ↔ c.toNat = a.toNat + b.toNat := by
  unfold checkedAdd
  split
  · rename_i hFits
    rw [Option.some.injEq, ← UInt64.toNat_inj, UInt64.toNat_add, Nat.mod_eq_of_lt hFits, eq_comm]
  · rename_i hExceeds
    refine iff_of_false (by simp) fun h => hExceeds ?_
    rw [← h]
    exact c.toNat_lt_size

/-! ## Digits -/

/-- The index with one more digit behind it. -/
def extendWord (value : UInt64) (b : UInt8) : Option UInt64 :=
  (checkedMul value 10).bind (checkedAdd · (b - byteOf '0').toUInt64)

theorem toNat_digit {b : UInt8} (hb : isDigitByte b = true) :
    (b - byteOf '0').toUInt64.toNat = b.toNat - (byteOf '0').toNat := by
  obtain ⟨hZero, -⟩ := isDigitByte_iff.mp hb
  rw [UInt8.toNat_toUInt64, UInt8.toNat_sub_of_le]
  exact hZero

theorem extendWord_eq_some_iff {b : UInt8} (hb : isDigitByte b = true) {value extended : UInt64} :
    extendWord value b = some extended ↔
      extended.toNat = 10 * value.toNat + (b.toNat - (byteOf '0').toNat) := by
  have hTen : (10 : UInt64).toNat = 10 := rfl
  rw [extendWord, Option.bind_eq_some_iff]
  simp only [checkedMul_eq_some_iff, checkedAdd_eq_some_iff, toNat_digit hb, hTen]
  constructor
  · rintro ⟨product, hProduct, hSum⟩
    omega
  · intro hSum
    have hFits := extended.toNat_lt_size
    refine ⟨.ofNat (value.toNat * 10), ?_, ?_⟩
    · exact UInt64.toNat_ofNat_of_lt' (by omega)
    · rw [UInt64.toNat_ofNat_of_lt' (by omega)]
      omega

/-- Continues an index in a word with the bytes behind those that denote `value`. -/
def readWords (value : UInt64) (offset : Nat) :
    List UInt8 → Except (Nat × SyntaxError.Kind) UInt64
  | [] => .ok value
  | b :: rest =>
    if isDigitByte b then
      match extendWord value b with
      | some extended => readWords extended (offset + 1) rest
      | none => .error (0, .indexOutOfRange)
    else .error (offset, .notADigit)

theorem map_toNat_readWords (value : UInt64) (offset : Nat) (bytes : List UInt8) :
    (readWords value offset bytes).map UInt64.toNat = readDigits value.toNat offset bytes := by
  induction bytes generalizing value offset with
  | nil => rfl
  | cons b rest ih =>
    rw [readWords, readDigits]
    by_cases hb : isDigitByte b = true
    · rw [if_pos hb, if_pos hb]
      have hLargest : maxIndex + 1 = UInt64.size := rfl
      cases hExtend : extendWord value b with
      | some extended =>
        have hSum := (extendWord_eq_some_iff hb).mp hExtend
        have hFits := extended.toNat_lt_size
        rw [ih, hSum, if_pos (by omega)]
      | none =>
        have hExceeds : ¬10 * value.toNat + (b.toNat - (byteOf '0').toNat) ≤ maxIndex := by
          intro hFits
          have hWord : extendWord value b = some (.ofNat _) :=
            (extendWord_eq_some_iff hb).mpr (UInt64.toNat_ofNat_of_lt' (by omega))
          rw [hExtend] at hWord
          cases hWord
        rw [if_neg hExceeds]
        rfl
    · rw [if_neg hb, if_neg hb]
      rfl

/-! ## Indices -/

/-- The index denoted by the text after a name separator, kept in a word. -/
def readIndexWords (digits : Text) : Except (Nat × SyntaxError.Kind) UInt64 :=
  if digits = [] then .error (0, .emptyIndex) else readWords 0 0 (utf8 digits)

theorem map_toNat_readIndexWords (digits : Text) :
    (readIndexWords digits).map UInt64.toNat = readIndex digits := by
  unfold readIndexWords readIndex
  split
  · rfl
  · rw [map_toNat_readWords, ← readDigits_utf8]
    rfl

/-- On the way to an index no product and no sum exceeds a word. -/
theorem IsIndex.product_and_sum_le {before after : Text} {c : Char}
    (h : IsIndex (before ++ c :: after)) :
    readDecimal before * 10 ≤ maxIndex ∧
      readDecimal before * 10 + (c.toNat - '0'.toNat) ≤ maxIndex := by
  have hValue : readDecimal (before ++ c :: after) =
      Nat.ofDigitChars 10 after (10 * readDecimal before + (c.toNat - '0'.toNat)) := by
    rw [readDecimal, Nat.ofDigitChars_append, Nat.ofDigitChars_cons, ← readDecimal]
  have hWhole := h.le_maxIndex
  have hGrows := le_ofDigitChars (10 * readDecimal before + (c.toNat - '0'.toNat)) after
  omega

end LogMarkup
