import LogMarkup.Json
import LogMarkup.Json.Scan
import Mathlib.Data.List.TakeWhile
import Mathlib.Tactic.SplitIfs

/-!
# JSON strings read back

A character stands in a JSON string as itself or as an escape, and is read back from either. So
a text is read back from its string, and the string is the text between quotes if and only if no
character of the text has to be escaped. Strings with other escapes are read too, but none in which
a control character stands as itself.

* `stringChar_eq_self`, `stringChar_of_needsEscape`: what stands for a character.
* `readString_literal`: a text is read back, character by character.
* `leaves_of_readString`: what is read as a string.
* `readLeading_stringLiteral`, `readWhole_stringLiteral`: the string as a whole JSON text.
* `stringLiteral_eq_verbatim_iff`: strings without escapes.
-/

namespace LogMarkup.Json

/-! ## Steps that can fail -/

theorem map_eq_ok_iff {ε α β : Type} {x : Except ε α} {f : α → β} {b : β} :
    x.map f = .ok b ↔ ∃ a, x = .ok a ∧ f a = b := by
  cases x <;> simp [Except.map]

theorem bind_eq_ok_iff {ε α β : Type} {x : Except ε α} {f : α → Except ε β} {b : β} :
    x >>= f = .ok b ↔ ∃ a, x = .ok a ∧ f a = .ok b := by
  cases x <;> simp [bind, Except.bind]

theorem mapError_eq_ok_iff {ε ε' α : Type} {x : Except ε α} {f : ε → ε'} {a : α} :
    x.mapError f = .ok a ↔ x = .ok a := by
  cases x <;> simp [Except.mapError]

/-! ## Escapes -/

theorem needsEscape_eq_false_iff {c : Char} :
    needsEscape c = false ↔ c ≠ '"' ∧ c ≠ '\\' ∧ 0x20 ≤ c.toNat := by
  simp [needsEscape, and_assoc]

theorem readEscape_letter {c letter : Char} (h : escaped? letter = some c) (rest : Text) :
    readEscape (letter :: rest) = .ok (c, rest) := by
  have hLetter : letter ≠ 'u' := by
    rintro rfl
    cases h
  simp only [readEscape, h]

theorem hexDigit?_digitChar {n : Nat} (h : n < 16) : hexDigit? n.digitChar = some n := by
  have hDigits : ∀ n < 16, hexDigit? (Nat.digitChar n) = some n := by decide
  exact hDigits n h

theorem codeEscape_eq {c : Char} (h : c.toNat < 0x20) :
    codeEscape c = ['\\', 'u', '0', '0', (c.toNat / 16).digitChar, (c.toNat % 16).digitChar] := by
  have hDigits : ∀ n < 0x20,
      "\\u".toList ++ List.replicate (4 - (Nat.toDigits 16 n).length) '0' ++ Nat.toDigits 16 n =
        ['\\', 'u', '0', '0', (n / 16).digitChar, (n % 16).digitChar] := by decide
  exact hDigits c.toNat h

theorem readEscape_code {c : Char} (h : c.toNat < 0x20) (rest : Text) :
    readEscape ('u' :: '0' :: '0' :: (c.toNat / 16).digitChar :: (c.toNat % 16).digitChar :: rest) =
      .ok (c, rest) := by
  have hZero : hexDigit? '0' = some 0 := rfl
  have hHigh := hexDigit?_digitChar (n := c.toNat / 16) (by omega)
  have hLow := hexDigit?_digitChar (n := c.toNat % 16) (by omega)
  have hCode : ((0 * 16 + 0) * 16 + c.toNat / 16) * 16 + c.toNat % 16 = c.toNat := by omega
  have hTrailing : isTrailingSurrogate c.toNat = false := by
    rw [isTrailingSurrogate, Bool.and_eq_false_iff, decide_eq_false_iff_not]
    exact .inl (by omega)
  have hLeading : isLeadingSurrogate c.toNat = false := by
    rw [isLeadingSurrogate, Bool.and_eq_false_iff, decide_eq_false_iff_not]
    exact .inl (by omega)
  simp only [readEscape, readHex, hZero, hHigh, hLow, hCode, bind, Except.bind, hTrailing, hLeading,
    Bool.false_eq_true, if_false, Char.ofNat_toNat]

theorem escaped?_of_escapeLetter? {c letter : Char} (h : escapeLetter? c = some letter) :
    escaped? letter = some c := by
  unfold escapeLetter? at h
  split_ifs at h with hc hc hc hc hc
  all_goals
    cases h
    rw [hc]
    rfl

/-- A control character is escaped by a letter or by its code. -/
theorem stringChar_of_control {c : Char} (h : c.toNat < 0x20) :
    (∃ letter, stringChar c = ['\\', letter] ∧ escaped? letter = some c) ∨
    stringChar c =
      ['\\', 'u', '0', '0', (c.toNat / 16).digitChar, (c.toNat % 16).digitChar] := by
  have hSelf : ¬(c = '"' ∨ c = '\\') := by
    rintro (rfl | rfl)
    · exact absurd h (by decide)
    · exact absurd h (by decide)
  rw [stringChar, if_neg hSelf]
  cases hLetter : escapeLetter? c with
  | some letter => exact .inl ⟨letter, rfl, escaped?_of_escapeLetter? hLetter⟩
  | none =>
    have hEscape : needsEscape c = true := by simp [needsEscape, h]
    right
    simp only [hEscape, if_true]
    exact codeEscape_eq h

theorem stringChar_of_needsEscape {c : Char} (h : needsEscape c = true) :
    ∃ escape, stringChar c = '\\' :: escape ∧ escape ≠ [] ∧
      ∀ rest, readEscape (escape ++ rest) = .ok (c, rest) := by
  by_cases hControl : c.toNat < 0x20
  · obtain ⟨letter, hForm, hRead⟩ | hForm := stringChar_of_control hControl
    · exact ⟨_, hForm, List.cons_ne_nil _ _, readEscape_letter hRead⟩
    · exact ⟨_, hForm, List.cons_ne_nil _ _, readEscape_code hControl⟩
  · have hSelf : c = '"' ∨ c = '\\' := by simpa [needsEscape, hControl] using h
    refine ⟨[c], by rw [stringChar, if_pos hSelf], List.cons_ne_nil _ _, ?_⟩
    rcases hSelf with rfl | rfl
    · exact readEscape_letter rfl
    · exact readEscape_letter rfl

theorem stringChar_eq_self {c : Char} (h : needsEscape c = false) : stringChar c = [c] := by
  obtain ⟨hQuote, hBackslash, hCode⟩ := needsEscape_eq_false_iff.mp h
  have hLetter : escapeLetter? c = none := by
    have hOther : ∀ {d : Char}, d.toNat < 0x20 → c ≠ d := fun hd hc => by
      rw [← hc] at hd
      omega
    simp only [escapeLetter?]
    rw [if_neg (hOther (by decide)), if_neg (hOther (by decide)), if_neg (hOther (by decide)),
      if_neg (hOther (by decide)), if_neg (hOther (by decide))]
  rw [stringChar, if_neg (by simp [hQuote, hBackslash]), hLetter]
  simp only [h, Bool.false_eq_true, if_false]

theorem newline_notMem_stringChar (c : Char) : '\n' ∉ stringChar c := by
  by_cases hControl : c.toNat < 0x20
  · have hAll : ∀ n < 0x20, '\n' ∉ stringChar (.ofNat n) := by decide
    have hChar := hAll c.toNat hControl
    rwa [Char.ofNat_toNat] at hChar
  · have hNewline : '\n' ≠ c := by
      rintro rfl
      exact hControl (by decide)
    cases hEscape : needsEscape c with
    | false => simpa [stringChar_eq_self hEscape] using hNewline
    | true =>
      have hSelf : c = '"' ∨ c = '\\' := by simpa [needsEscape, hControl] using hEscape
      rw [stringChar, if_pos hSelf]
      simpa using hNewline

/-! ## Strings -/

theorem readString_escape {escape rest : Text} {c : Char} (h : readEscape escape = .ok (c, rest)) :
    readString ('\\' :: escape) =
      (readString rest).map fun (s, rest) => (s.cons c true, rest) := by
  rw [readString]
  split
  · rename_i hStop
    rw [h] at hStop
    cases hStop
  · rename_i hRead
    rw [h] at hRead
    cases hRead
    rfl

theorem readString_cons {c : Char} (h : needsEscape c = false) (rest : Text) :
    readString (c :: rest) = (readString rest).map fun (s, rest) => (s.cons c false, rest) := by
  obtain ⟨hQuote, hBackslash, hCode⟩ := needsEscape_eq_false_iff.mp h
  rw [readString, if_neg (Nat.not_lt.mpr hCode)]
  · simpa using hQuote
  · simpa using hBackslash

theorem readString_stringChar (c : Char) (rest : Text) :
    readString (stringChar c ++ rest) =
      (readString rest).map fun (s, rest) => (s.cons c (needsEscape c), rest) := by
  cases hEscape : needsEscape c with
  | false => rw [stringChar_eq_self hEscape, List.singleton_append, readString_cons hEscape]
  | true =>
    obtain ⟨escape, hForm, -, hRead⟩ := stringChar_of_needsEscape hEscape
    rw [hForm, List.cons_append, readString_escape (hRead rest)]

/-- A text is read back from its string, which tells whether it is written without escapes. -/
theorem readString_literal (t rest : Text) :
    readString (t.flatMap stringChar ++ '"' :: rest) = .ok (⟨t, !t.any needsEscape⟩, rest) := by
  induction t with
  | nil => rw [List.flatMap_nil, List.nil_append, readString, List.any_nil, Bool.not_false]
  | cons c t ih =>
    rw [List.flatMap_cons, List.append_assoc, readString_stringChar, ih]
    simp only [Except.map, StringContent.cons, List.any_cons, Bool.not_or, Bool.and_comm]

/-! ## What is read as a string -/

theorem code_of_hexDigit? {c : Char} {n : Nat} (h : hexDigit? c = some n) : 0x20 ≤ c.toNat := by
  have hAbove : ∀ {d : Char}, 0x20 ≤ d.toNat → d ≤ c → 0x20 ≤ c.toNat := fun hd hc =>
    Nat.le_trans hd (UInt32.le_iff_toNat_le.mp hc)
  unfold hexDigit? at h
  split_ifs at h with hDigit hLower hUpper
  · exact hAbove (by decide) hDigit.1
  · exact hAbove (by decide) hLower.1
  · exact hAbove (by decide) hUpper.1

theorem code_of_escaped? {c d : Char} (h : escaped? c = some d) : 0x20 ≤ c.toNat := by
  unfold escaped? at h
  split_ifs at h with hSelf hLetter hLetter hLetter hLetter hLetter
  · rcases hSelf with rfl | rfl | rfl <;> decide
  all_goals
    rw [hLetter]
    decide

/-- Is `rest` what is left of a text when characters are read that are no control characters? -/
def Leaves (t rest : Text) : Prop := ∃ read, t = read ++ rest ∧ ∀ c ∈ read, 0x20 ≤ c.toNat

theorem Leaves.refl (t : Text) : Leaves t t := ⟨[], rfl, List.forall_mem_nil _⟩

theorem Leaves.cons {c : Char} {t rest : Text} (hc : 0x20 ≤ c.toNat) (h : Leaves t rest) :
    Leaves (c :: t) rest := by
  obtain ⟨read, rfl, hRead⟩ := h
  exact ⟨c :: read, rfl, List.forall_mem_cons.mpr ⟨hc, hRead⟩⟩

theorem Leaves.trans {t u rest : Text} (h : Leaves t u) (h' : Leaves u rest) : Leaves t rest := by
  obtain ⟨read, rfl, hRead⟩ := h
  obtain ⟨read', rfl, hRead'⟩ := h'
  exact ⟨read ++ read', (List.append_assoc _ _ _).symm, List.forall_mem_append.mpr ⟨hRead, hRead'⟩⟩

theorem leaves_of_readHex {t rest : Text} {n : Nat} (h : readHex t = .ok (n, rest)) :
    Leaves t rest := by
  unfold readHex at h
  split at h
  · split at h
    · cases h
      exact .cons (code_of_hexDigit? ‹_›) (.cons (code_of_hexDigit? ‹_›)
        (.cons (code_of_hexDigit? ‹_›) (.cons (code_of_hexDigit? ‹_›) (.refl _))))
    · cases h
  · cases h

theorem leaves_of_readTrailing {leading : Nat} {t rest : Text} {c : Char}
    (h : readTrailing leading t = .ok (c, rest)) : Leaves t rest := by
  unfold readTrailing at h
  split at h
  · cases h
  · split at h
    · cases h
    · obtain ⟨⟨code, left⟩, hHex, hPair⟩ := bind_eq_ok_iff.mp h
      dsimp only at hPair
      split at hPair
      · simp only [Except.ok.injEq, Prod.mk.injEq] at hPair
        rw [← hPair.2]
        exact .cons (by decide) (.cons (by decide) (leaves_of_readHex hHex))
      · cases hPair
    · cases h
  · cases h

theorem leaves_of_readEscape {t rest : Text} {c : Char}
    (h : readEscape t = .ok (c, rest)) : Leaves t rest := by
  unfold readEscape at h
  split at h
  · cases h
  · obtain ⟨⟨code, left⟩, hHex, hCode⟩ := bind_eq_ok_iff.mp h
    have hDigits := leaves_of_readHex hHex
    dsimp only at hCode
    split at hCode
    · cases hCode
    · split at hCode
      · exact .cons (by decide) (hDigits.trans (leaves_of_readTrailing hCode))
      · cases hCode
        exact .cons (by decide) hDigits
  · split at h
    · cases h
    · rename_i hLetter
      cases h
      exact .cons (code_of_escaped? hLetter) (.refl _)

/-- A string that is read ends with a quote, and has no control characters in it. -/
theorem leaves_of_readString {t rest : Text} {s : StringContent}
    (h : readString t = .ok (s, rest)) : Leaves t ('"' :: rest) := by
  fun_induction readString t generalizing s with
  | case1 => cases h
  | case2 =>
    cases h
    exact .refl _
  | case3 => cases h
  | case4 escape c left hEscape ih =>
    obtain ⟨read, hRead, hSame⟩ := map_eq_ok_iff.mp h
    cases hSame
    exact .cons (by decide) ((leaves_of_readEscape hEscape).trans (ih hRead))
  | case5 => cases h
  | case6 c left _ _ hCode ih =>
    obtain ⟨read, hRead, hSame⟩ := map_eq_ok_iff.mp h
    cases hSame
    exact .cons (Nat.not_lt.mp hCode) (ih hRead)

/-- Only what begins with a quote is read as a text. -/
theorem readString_of_readValue {t rest : Text} {s : StringContent}
    (h : readValue t = .ok (.text s, rest)) : ∃ u, t = '"' :: u ∧ readString u = .ok (s, rest) := by
  unfold readValue at h
  split at h
  · rename_i u
    obtain ⟨read, hRead, hSame⟩ := map_eq_ok_iff.mp h
    cases hSame
    exact ⟨u, rfl, hRead⟩
  · cases h
  · cases h
  · cases h
  · cases h
  · cases h
  · obtain ⟨read, -, hSame⟩ := map_eq_ok_iff.mp h
    cases hSame
  · split at h
    · obtain ⟨read, -, hSame⟩ := map_eq_ok_iff.mp h
      cases hSame
    · cases h
  · cases h

/-! ## The string as a text -/

/-- A string is read up to its end, whatever stands behind it. -/
theorem readLeading_stringLiteral (t rest : Text) :
    readLeading (stringLiteral t ++ rest) = .ok (.text ⟨t, !t.any needsEscape⟩, rest) := by
  have hForm : stringLiteral t ++ rest = '"' :: (t.flatMap stringChar ++ '"' :: rest) := by
    simp [stringLiteral]
  rw [hForm]
  change (readString (t.flatMap stringChar ++ '"' :: rest)).map _ = _
  rw [readString_literal]
  rfl

theorem readEnd_eq_ok_iff {t : Text} : readEnd t = .ok () ↔ ∀ c ∈ t, isBlank c := by
  rw [← List.dropWhile_eq_nil_iff, readEnd]
  split
  · rename_i hBlank
    exact iff_of_true rfl hBlank
  · rename_i hOther
    refine iff_of_false nofun ?_
    rw [hOther]
    exact List.cons_ne_nil _ _

/-- A string has no fault. -/
theorem readWhole_stringLiteral (t : Text) :
    readWhole (stringLiteral t) = .ok (.text ⟨t, !t.any needsEscape⟩) := by
  have hRead := readLeading_stringLiteral t []
  rw [List.append_nil] at hRead
  unfold readWhole
  rw [hRead]
  rfl

theorem readPart_append (t rest : Text) : readPart (t ++ rest) rest = t := by
  rw [readPart, List.length_append, Nat.add_sub_cancel, List.take_left]

theorem byteLength_reverse (t : Text) : byteLength t.reverse = byteLength t := by
  induction t with
  | nil => rfl
  | cons c t ih =>
    rw [List.reverse_cons, byteLength_append, ih, Nat.add_comm, ← byteLength_append,
      List.singleton_append]

theorem newline_notMem_stringLiteral (t : Text) : '\n' ∉ stringLiteral t := by
  simp [stringLiteral, newline_notMem_stringChar]

/-- A string stands on one line. -/
theorem place_after_stringLiteral (t : Text) :
    Place.after (stringLiteral t) = ⟨1, byteLength (stringLiteral t)⟩ := by
  have hLine := newline_notMem_stringLiteral t
  have hWhole : (stringLiteral t).reverse.takeWhile (· ≠ '\n') = (stringLiteral t).reverse := by
    rw [List.takeWhile_eq_self_iff]
    intro c hc
    rw [List.mem_reverse] at hc
    exact decide_eq_true (ne_of_mem_of_not_mem hc hLine)
  rw [Place.after, List.count_eq_zero.mpr hLine, hWhole, byteLength_reverse]

/-! ## Strings without escapes -/

theorem length_le_length_flatMap_stringChar (t : Text) :
    t.length ≤ (t.flatMap stringChar).length := by
  induction t with
  | nil => exact Nat.le_refl _
  | cons c t ih =>
    have hChar : 1 ≤ (stringChar c).length := by
      cases hEscape : needsEscape c with
      | false => exact Nat.le_of_eq (by rw [stringChar_eq_self hEscape, List.length_singleton])
      | true =>
        obtain ⟨escape, hForm, -⟩ := stringChar_of_needsEscape hEscape
        rw [hForm, List.length_cons]
        omega
    rw [List.flatMap_cons, List.length_append, List.length_cons]
    omega

theorem flatMap_stringChar_eq_self_iff {t : Text} :
    t.flatMap stringChar = t ↔ ∀ c ∈ t, needsEscape c = false := by
  induction t with
  | nil => simp
  | cons c t ih =>
    rw [List.flatMap_cons, List.forall_mem_cons, ← ih]
    cases hEscape : needsEscape c with
    | false => simp [stringChar_eq_self hEscape]
    | true =>
      obtain ⟨escape, hForm, hNonempty, -⟩ := stringChar_of_needsEscape hEscape
      have hLength := length_le_length_flatMap_stringChar t
      have hEscapeLength := List.length_pos_iff.mpr hNonempty
      refine iff_of_false (fun hSame => ?_) (by simp)
      have hSameLength := congrArg List.length hSame
      rw [hForm, List.length_append, List.length_cons, List.length_cons] at hSameLength
      omega

theorem stringLiteral_eq_verbatim_iff {t : Text} :
    stringLiteral t = ['"'] ++ t ++ ['"'] ↔ ∀ c ∈ t, needsEscape c = false := by
  rw [stringLiteral, List.append_cancel_right_eq, List.append_cancel_left_eq,
    flatMap_stringChar_eq_self_iff]

end LogMarkup.Json
