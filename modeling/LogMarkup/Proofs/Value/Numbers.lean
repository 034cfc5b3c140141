import LogMarkup.Proofs.Decimal.Spelling
import LogMarkup.Proofs.Template.Words
import LogMarkup.Value

/-!
# Numbers as values and as indices

The value of an integer of any width writes the numeral of that integer. What is written for a
word without a sign can stand as an explicit index, and is then read as the same number.

* `Value.Denotes`, `Value.denotes_int`, `Value.denotes_nat`: values that write a numeral.
* `Placeholder.read_index_iff`: the text behind a name separator.
* `Value.readIndex_nat_iff`, `Value.readIndex_unpadded_nat_iff`: the indices of a word.
* `indices_and_numbers_exact`: nothing is lost in either direction.
-/

namespace LogMarkup

/-! ## Writing numbers -/

/-- The value writes a numeral of the integer. -/
structure Value.Denotes (v : Value) (i : Int) : Prop where
  result_eq : v.writing.result = .ok ()
  readSigned_text : readSigned v.writing.text = some i

theorem text_integerChunks (i : Int) :
    (integerChunks i).flatMap Chunk.toText = signedDecimal i := by
  unfold integerChunks signedDecimal
  split
  · simp [Chunk.toText]
  · simp [Chunk.toText]

theorem Value.text_nat (n : UInt64) : (Value.nat n).writing.text = decimal n.toNat := by
  rw [Value.writing, Writing.text_done, text_integerChunks, signedDecimal, if_neg (by omega)]
  rfl

theorem Value.denotes_int (i : Int64) : (Value.int i).Denotes i.toInt where
  result_eq := rfl
  readSigned_text := by
    rw [Value.writing, Writing.text_done, text_integerChunks, readSigned_signedDecimal]

theorem Value.denotes_nat (n : UInt64) : (Value.nat n).Denotes n.toNat where
  result_eq := rfl
  readSigned_text := by rw [Value.text_nat, readSigned_decimal]

/-- The value writes an explicit index of the number, the only one but for zeros in front. -/
structure Value.WritesIndex (v : Value) (n : Nat) : Prop where
  result_eq : v.writing.result = .ok ()
  readIndex_iff : ∀ digits, readIndex digits = .ok n ↔
    ∃ zeros, digits = List.replicate zeros '0' ++ v.writing.text
  readIndex_unpadded_iff : ∀ digits, readIndex digits = .ok n ∧ IsUnpadded digits ↔
    digits = v.writing.text

theorem Value.writesIndex_nat (n : UInt64) : (Value.nat n).WritesIndex n.toNat := by
  have hRange : n.toNat ≤ maxIndex := Nat.le_sub_one_of_lt n.toNat_lt_size
  refine ⟨rfl, fun digits => ?_, fun digits => ?_⟩
  · rw [readIndex_eq_ok_iff_zeros, Value.text_nat, and_iff_right hRange]
  · rw [readIndex_unpadded_iff hRange, Value.text_nat]

/-! ## Reading indices -/

theorem isIndex_iff {digits : Text} :
    IsIndex digits ↔
      digits ≠ [] ∧ (∀ c ∈ digits, '0' ≤ c ∧ c ≤ '9') ∧ readDecimal digits ≤ 2 ^ 64 - 1 := by
  have hDigit : ∀ c, isDecimalDigit c = true ↔ '0' ≤ c ∧ c ≤ '9' := by simp [isDecimalDigit]
  simp only [← hDigit]
  exact ⟨fun h => ⟨h.ne_nil, h.isDecimalDigit, h.le_maxIndex⟩, fun h => ⟨h.1, h.2.1, h.2.2⟩⟩

/-- Behind a name and a separator stands an index, or there is no placeholder. -/
theorem Placeholder.read_digits_eq_ok_iff {start automatic : Nat} {name digits after rest : Text}
    {p : Placeholder} (hName : IsName name) (hDigits : delimiter ∉ digits) :
    Placeholder.read start automatic (name ++ nameSeparator :: (digits ++ delimiter :: after)) =
        .ok (p, rest) ↔
      IsIndex digits ∧ p = ⟨start, name, some digits, readDecimal digits⟩ ∧ rest = after := by
  rw [Placeholder.read_digits start automatic hName hDigits]
  cases hRead : readIndex digits with
  | ok index =>
    obtain ⟨hIndex, rfl⟩ := readIndex_eq_ok_iff.mp hRead
    simp [hIndex, eq_comm]
  | error e =>
    refine iff_of_false (by simp) fun h => ?_
    rw [readIndex_eq_ok_iff.mpr ⟨h.1, rfl⟩] at hRead
    cases hRead

/-! ## Both directions -/

/-- The text behind a name separator is an index iff it denotes a number that fits a word, and it
is kept as that number, in words as in numbers. What is written for a word is read back as an
index, and every value of an integer type writes a numeral of its integer. -/
theorem indices_and_numbers_exact :
    (∀ (start automatic : Nat) (name digits after : Text), IsName name → delimiter ∉ digits →
      ∀ p rest,
        Placeholder.read start automatic
            (name ++ nameSeparator :: (digits ++ delimiter :: after)) = .ok (p, rest) ↔
          (digits ≠ [] ∧ (∀ c ∈ digits, '0' ≤ c ∧ c ≤ '9') ∧ readDecimal digits ≤ 2 ^ 64 - 1) ∧
            p = ⟨start, name, some digits, readDecimal digits⟩ ∧ rest = after) ∧
    (∀ digits, (readIndexWords digits).map UInt64.toNat = readIndex digits) ∧
    (∀ before c after, IsIndex (before ++ c :: after) →
      readDecimal before * 10 ≤ maxIndex ∧
        readDecimal before * 10 + (c.toNat - '0'.toNat) ≤ maxIndex) ∧
    (∀ n : UInt64, (toValue n).WritesIndex n.toNat) ∧
    (∀ n : USize, (toValue n).WritesIndex n.toNat) ∧
    (∀ i : Int8, (toValue i).Denotes i.toInt) ∧ (∀ i : Int16, (toValue i).Denotes i.toInt) ∧
    (∀ i : Int32, (toValue i).Denotes i.toInt) ∧ (∀ i : Int64, (toValue i).Denotes i.toInt) ∧
    (∀ i : ISize, (toValue i).Denotes i.toInt) ∧
    (∀ n : UInt8, (toValue n).Denotes n.toNat) ∧ (∀ n : UInt16, (toValue n).Denotes n.toNat) ∧
    (∀ n : UInt32, (toValue n).Denotes n.toNat) ∧ (∀ n : UInt64, (toValue n).Denotes n.toNat) ∧
    (∀ n : USize, (toValue n).Denotes n.toNat) := by
  refine ⟨fun start automatic name digits after hName hDigits p rest => ?_,
    map_toNat_readIndexWords, fun _ _ _ h => h.product_and_sum_le,
    fun n => Value.writesIndex_nat n, fun n => ?_,
    fun i => ?_, fun i => ?_, fun i => ?_, fun i => Value.denotes_int i, fun i => ?_,
    fun n => ?_, fun n => ?_, fun n => ?_, fun n => Value.denotes_nat n, fun n => ?_⟩
  · rw [← isIndex_iff]
    exact Placeholder.read_digits_eq_ok_iff hName hDigits
  · exact n.toNat_toUInt64 ▸ Value.writesIndex_nat n.toUInt64
  · exact i.toInt_toInt64 ▸ Value.denotes_int i.toInt64
  · exact i.toInt_toInt64 ▸ Value.denotes_int i.toInt64
  · exact i.toInt_toInt64 ▸ Value.denotes_int i.toInt64
  · exact i.toInt_toInt64 ▸ Value.denotes_int i.toInt64
  · exact n.toNat_toUInt64 ▸ Value.denotes_nat n.toUInt64
  · exact n.toNat_toUInt64 ▸ Value.denotes_nat n.toUInt64
  · exact n.toNat_toUInt64 ▸ Value.denotes_nat n.toUInt64
  · exact n.toNat_toUInt64 ▸ Value.denotes_nat n.toUInt64

/-- The least of the signed words. -/
example : (toValue Int64.minValue).writing.text = "-9223372036854775808".toList := by decide

end LogMarkup
