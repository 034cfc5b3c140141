import LogMarkup.Template.Part

/-!
# Reading explicit indices

The value of a text of digits is built up digit by digit, and reading stops as soon as it exceeds
`maxIndex`. A longer text has no smaller value, so what was read up to a place never exceeds the
bound if the whole does not, and nothing is lost by looking at every digit.

* `IsIndex`: the texts that are explicit indices.
* `readIndex_eq_ok_iff`: these are read, and their index is their value.
* `IndexFlaw`, `IndexFlaw.of_readIndex`: what is wrong with other texts, and where.
-/

namespace LogMarkup

/-! ## Decimal digits -/

theorem isDecimalDigit_iff {c : Char} :
    isDecimalDigit c = true ↔ 48 ≤ c.val.toNat ∧ c.val.toNat ≤ 57 := by
  rw [isDecimalDigit, Bool.and_eq_true, decide_eq_true_iff, decide_eq_true_iff]
  exact Iff.rfl

theorem utf8Size_of_isDecimalDigit {c : Char} (h : isDecimalDigit c = true) : c.utf8Size = 1 := by
  rw [Char.utf8Size_eq_one_iff, UInt32.le_iff_toNat_le]
  exact Nat.le_trans (isDecimalDigit_iff.mp h).2 (by decide)

theorem le_ofDigitChars (value : Nat) (digits : Text) :
    value ≤ Nat.ofDigitChars 10 digits value := by
  induction digits generalizing value with
  | nil => exact Nat.le_refl value
  | cons c rest ih =>
    rw [Nat.ofDigitChars_cons]
    have hRest := ih (10 * value + (c.toNat - '0'.toNat))
    omega

/-! ## Indices -/

/-- A text that can stand behind the name separator of a placeholder. -/
structure IsIndex (digits : Text) : Prop where
  ne_nil : digits ≠ []
  isDecimalDigit : ∀ c ∈ digits, isDecimalDigit c = true
  le_maxIndex : readDecimal digits ≤ maxIndex

theorem readIndexFrom_eq_ok_iff {value offset index : Nat} {digits : Text}
    (hValue : value ≤ maxIndex) :
    readIndexFrom value offset digits = .ok index ↔
      (∀ c ∈ digits, isDecimalDigit c = true) ∧ index = Nat.ofDigitChars 10 digits value ∧
        index ≤ maxIndex := by
  induction digits generalizing value offset with
  | nil =>
    simp only [readIndexFrom, Except.ok.injEq, Nat.ofDigitChars_nil]
    constructor
    · rintro rfl
      exact ⟨by simp, rfl, hValue⟩
    · rintro ⟨-, rfl, -⟩
      rfl
  | cons c rest ih =>
    rw [readIndexFrom, List.forall_mem_cons, Nat.ofDigitChars_cons]
    by_cases hc : isDecimalDigit c = true
    · rw [if_pos hc]
      by_cases hRange : 10 * value + (c.toNat - '0'.toNat) ≤ maxIndex
      · rw [if_pos hRange, ih hRange]
        simp [hc]
      · have hGrows := le_ofDigitChars (10 * value + (c.toNat - '0'.toNat)) rest
        rw [if_neg hRange]
        constructor
        · intro h
          cases h
        · rintro ⟨-, rfl, hIndex⟩
          exact absurd (Nat.le_trans hGrows hIndex) hRange
    · rw [if_neg hc]
      constructor
      · intro h
        cases h
      · rintro ⟨⟨hDigit, -⟩, -⟩
        exact absurd hDigit hc

theorem readIndex_eq_ok_iff {digits : Text} {index : Nat} :
    readIndex digits = .ok index ↔ IsIndex digits ∧ index = readDecimal digits := by
  unfold readIndex
  by_cases hNe : digits = []
  · rw [if_pos hNe]
    constructor
    · intro h
      cases h
    · rintro ⟨hIndex, -⟩
      exact absurd hNe hIndex.ne_nil
  · rw [if_neg hNe, readIndexFrom_eq_ok_iff (Nat.zero_le _)]
    constructor
    · rintro ⟨hDigits, rfl, hLe⟩
      exact ⟨⟨hNe, hDigits, hLe⟩, rfl⟩
    · rintro ⟨hIndex, rfl⟩
      exact ⟨hIndex.isDecimalDigit, rfl, hIndex.le_maxIndex⟩

theorem IsIndex.delimiter_notMem {digits : Text} (h : IsIndex digits) : delimiter ∉ digits := by
  intro hMem
  exact absurd (h.isDecimalDigit delimiter hMem) (by decide)

/-! ## Texts that are no indices -/

/-- What is wrong with a text that is no index, and its byte offset in the text. -/
inductive IndexFlaw : Text → Nat → SyntaxError.Kind → Prop where
  | empty : IndexFlaw [] 0 .emptyIndex
  | outOfRange {digits rest : Text} (hDigits : ∀ c ∈ digits, isDecimalDigit c = true)
      (hValue : maxIndex < readDecimal digits) : IndexFlaw (digits ++ rest) 0 .indexOutOfRange
  | notADigit {digits rest : Text} {c : Char} (hDigits : ∀ c ∈ digits, isDecimalDigit c = true)
      (hValue : readDecimal digits ≤ maxIndex) (hc : isDecimalDigit c = false) :
      IndexFlaw (digits ++ c :: rest) (byteLength digits) .notADigit

/-- Where reading on from a value fails. -/
theorem exists_of_readIndexFrom {value offset position : Nat} {t : Text} {kind : SyntaxError.Kind}
    (hValue : value ≤ maxIndex) (h : readIndexFrom value offset t = .error (position, kind)) :
    ∃ digits rest, t = digits ++ rest ∧ (∀ c ∈ digits, isDecimalDigit c = true) ∧
      ((maxIndex < Nat.ofDigitChars 10 digits value ∧ position = 0 ∧ kind = .indexOutOfRange) ∨
        Nat.ofDigitChars 10 digits value ≤ maxIndex ∧
          (∃ c ∈ rest.head?, isDecimalDigit c = false) ∧
          position = offset + byteLength digits ∧ kind = .notADigit) := by
  induction t generalizing value offset with
  | nil => cases h
  | cons c rest ih =>
    rw [readIndexFrom] at h
    by_cases hc : isDecimalDigit c = true
    · rw [if_pos hc] at h
      by_cases hRange : 10 * value + (c.toNat - '0'.toNat) ≤ maxIndex
      · rw [if_pos hRange] at h
        obtain ⟨digits, more, rfl, hDigits, hEnd⟩ := ih hRange h
        refine ⟨c :: digits, more, rfl, List.forall_mem_cons.mpr ⟨hc, hDigits⟩, ?_⟩
        rw [Nat.ofDigitChars_cons, byteLength_cons, utf8Size_of_isDecimalDigit hc,
          ← Nat.add_assoc]
        exact hEnd
      · rw [if_neg hRange] at h
        cases h
        refine ⟨[c], rest, rfl, by simpa using hc, .inl ⟨?_, rfl, rfl⟩⟩
        exact Nat.lt_of_not_le hRange
    · rw [if_neg hc] at h
      cases h
      exact ⟨[], c :: rest, rfl, by simp, .inr ⟨hValue, ⟨c, rfl, by simpa using hc⟩, rfl, rfl⟩⟩

theorem IndexFlaw.of_readIndex {t : Text} {position : Nat} {kind : SyntaxError.Kind}
    (h : readIndex t = .error (position, kind)) : IndexFlaw t position kind := by
  unfold readIndex at h
  split at h
  · rename_i hEmpty
    cases h
    rw [hEmpty]
    exact .empty
  · obtain ⟨digits, rest, rfl, hDigits, ⟨hValue, rfl, rfl⟩ | ⟨hValue, ⟨c, hc, hOther⟩, rfl, rfl⟩⟩ :=
      exists_of_readIndexFrom (Nat.zero_le _) h
    · exact .outOfRange hDigits hValue
    · obtain ⟨more, rfl⟩ : ∃ more, rest = c :: more := List.head?_eq_some_iff.mp hc
      rw [Nat.zero_add]
      exact .notADigit hDigits hValue hOther

end LogMarkup
