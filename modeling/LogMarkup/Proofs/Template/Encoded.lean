import LogMarkup.Proofs.Json.Literal
import LogMarkup.Proofs.Template.Scanning
import LogMarkup.Template.Json

/-!
# Templates through JSON

A template is decoded from the JSON string that it is encoded as. A decoder that keeps the source
always gets it back; one that only looks at it does if and only if the string has no escapes. For
a text that is no template, decoding gives the error of scanning it, at the end of the string.

* `Template.decodeText_stringLiteral`, `Template.decodeValue_stringLiteral`: decoding a string.
* `Template.decodeText_append_eq_ok_iff`, `Template.exists_string_of_decodeText`: which texts are
  decoded.
* `Template.decode_encode`: what decoding gives for each text.
-/

namespace LogMarkup.Template

open Json

variable {s : Text} {t : Template}

theorem mark_first_line (column : Nat) (message : Text) :
    (Place.mk 1 column).mark message =
      message ++ " at line 1 column ".toList ++ decimal column := by
  have hLine : " at line ".toList ++ (decimal 1 ++ " column ".toList) =
      " at line 1 column ".toList := by decide
  rw [Place.mark, ← hLine]
  simp only [List.append_assoc]

/-- A string is decoded before what stands behind it is looked at. -/
theorem decodeText_stringLiteral_append (ownership : Ownership) (s rest : Text) :
    decodeText ownership (stringLiteral s ++ rest) =
      ((ofLeading ownership (ownership = .borrowed) (.text ⟨s, !s.any needsEscape⟩)).mapError
        fun error => error.message ++ " at line 1 column ".toList ++
          decimal (byteLength (stringLiteral s))) >>= fun t =>
        ((readEnd rest).mapError (·.message (stringLiteral s ++ rest))).map fun _ => t := by
  unfold decodeText
  rw [readLeading_stringLiteral]
  simp only [Except.mapError, bind, Except.bind, readPart_append, place_after_stringLiteral,
    mark_first_line]
  rfl

theorem decodeText_stringLiteral (ownership : Ownership) (s : Text) :
    decodeText ownership (stringLiteral s) =
      (ofLeading ownership (ownership = .borrowed) (.text ⟨s, !s.any needsEscape⟩)).mapError
        fun error => error.message ++ " at line 1 column ".toList ++
          decimal (byteLength (stringLiteral s)) := by
  have hDecode := decodeText_stringLiteral_append ownership s []
  rw [List.append_nil] at hDecode
  rw [hDecode]
  exact bind_pure _

theorem decodeValue_stringLiteral (ownership : Ownership) (s : Text) :
    decodeValue ownership (stringLiteral s) = (ofDecoded s).mapError DecodeError.message := by
  unfold decodeValue
  rw [readWhole_stringLiteral]
  rfl

theorem ofLeading_owned (content : StringContent) :
    ofLeading .owned (Ownership.owned = .borrowed) (.text content) = ofDecoded content.text := rfl

theorem ofLeading_borrowed (content : StringContent) :
    ofLeading .borrowed (Ownership.borrowed = .borrowed) (.text content) =
      if content.verbatim then ofDecoded content.text
      else .error (.invalidType (.text content.text) Ownership.borrowed.expected) := by
  obtain ⟨text, verbatim⟩ := content
  cases verbatim <;> rfl

theorem ofDecoded_eq_ok_iff : ofDecoded s = .ok t ↔ ofText s = .ok t := mapError_eq_ok_iff

/-- A decoder that looks at the source needs a string without escapes. -/
theorem decodeText_borrowed_eq_ok_iff :
    decodeText .borrowed (stringLiteral s) = .ok t ↔
      ofText s = .ok t ∧ ∀ c ∈ s, needsEscape c = false := by
  rw [decodeText_stringLiteral, mapError_eq_ok_iff, ofLeading_borrowed]
  cases hEscapes : s.any needsEscape with
  | false =>
    have hNone : ∀ c ∈ s, needsEscape c = false := by simpa using hEscapes
    rw [Bool.not_false, if_pos rfl, ofDecoded_eq_ok_iff, and_iff_left hNone]
  | true =>
    have hSome : ¬ ∀ c ∈ s, needsEscape c = false := by simpa using hEscapes
    rw [Bool.not_true, if_neg Bool.false_ne_true]
    exact iff_of_false (by simp) fun h => hSome h.2

/-! ## Texts that are decoded -/

/-- Behind a string that is decoded only blanks may stand. -/
theorem decodeText_append_eq_ok_iff {ownership : Ownership} {rest : Text} :
    decodeText ownership (stringLiteral s ++ rest) = .ok t ↔
      decodeText ownership (stringLiteral s) = .ok t ∧ ∀ c ∈ rest, isBlank c := by
  rw [decodeText_stringLiteral_append, ← decodeText_stringLiteral, ← readEnd_eq_ok_iff]
  simp only [bind_eq_ok_iff, map_eq_ok_iff, mapError_eq_ok_iff]
  constructor
  · rintro ⟨_, hDecoded, _, hEnd, rfl⟩
    exact ⟨hDecoded, hEnd⟩
  · rintro ⟨hDecoded, hEnd⟩
    exact ⟨t, hDecoded, (), hEnd, rfl⟩

theorem exists_text_of_ofLeading {ownership : Ownership} {verbatim : Bool} {leading : Leading}
    (h : ofLeading ownership verbatim leading = .ok t) :
    ∃ content, leading = .text content ∧ content.text = t.source := by
  unfold ofLeading at h
  split at h
  · rename_i content
    split at h
    · cases h
    · exact ⟨content, rfl, (ofText_eq_ok_iff.mp (ofDecoded_eq_ok_iff.mp h)).symm⟩
  all_goals cases h

/-- A text that is decoded is a string between blanks, in which every control character is
escaped. The template has the source that the string is read as. -/
theorem exists_string_of_decodeText {ownership : Ownership} {json : Text}
    (h : decodeText ownership json = .ok t) :
    ∃ before body after verbatim, json = before ++ '"' :: (body ++ '"' :: after) ∧
      readString (body ++ '"' :: after) = .ok (⟨t.source, verbatim⟩, after) ∧
      (∀ c ∈ before ++ after, isBlank c) ∧ ∀ c ∈ body, 0x20 ≤ c.toNat := by
  obtain ⟨⟨leading, after⟩, hLeading, hRest⟩ := bind_eq_ok_iff.mp h
  obtain ⟨_, hTemplate, hAfter⟩ := bind_eq_ok_iff.mp hRest
  obtain ⟨_, hEnd, hSame⟩ := bind_eq_ok_iff.mp hAfter
  cases hSame
  rw [mapError_eq_ok_iff] at hLeading hTemplate hEnd
  obtain ⟨⟨_, verbatim⟩, rfl, rfl⟩ := exists_text_of_ofLeading hTemplate
  obtain ⟨quoted, hQuote, hRead⟩ := readString_of_readValue hLeading
  obtain ⟨body, rfl, hBody⟩ := leaves_of_readString hRead
  refine ⟨json.takeWhile isBlank, body, after, verbatim, ?_, hRead, ?_, hBody⟩
  · rw [← hQuote, List.takeWhile_append_dropWhile]
  · exact List.forall_mem_append.mpr
      ⟨fun _ => List.mem_takeWhile_imp, readEnd_eq_ok_iff.mp hEnd⟩

/-! ## Round trip -/

/-- From the string that a template is encoded as, that very template is decoded, with the same
source, names and expansions. A decoder that only looks at the source gets it if and only if the
source needs no escape. The string of any other text gives the error of scanning it, which is found
when the whole string is read. -/
theorem decode_encode (s : Text) :
    (∀ t, ofText s = .ok t →
      t.source = s ∧ t.encode = stringLiteral s ∧
      decodeText .owned t.encode = .ok t ∧
      (∀ t', decodeText .borrowed t.encode = .ok t' ↔
        t' = t ∧ ∀ c ∈ s, c ≠ '"' ∧ c ≠ '\\' ∧ 0x20 ≤ c.toNat) ∧
      (t.encode = ['"'] ++ s ++ ['"'] ↔ ∀ c ∈ s, c ≠ '"' ∧ c ≠ '\\' ∧ 0x20 ≤ c.toNat)) ∧
    ∀ e, ofText s = .error e →
      (scan s).2 = some e ∧
      ofLeading .owned false (.text ⟨s, !s.any needsEscape⟩) = .error (.content e.message) ∧
      decodeText .owned (stringLiteral s) =
        .error (e.message ++ " at line 1 column ".toList ++
          decimal (byteLength (stringLiteral s))) ∧
      decodeValue .owned (stringLiteral s) = .error e.message := by
  simp only [← needsEscape_eq_false_iff]
  constructor
  · intro t h
    have hSource : t.source = s := ofText_eq_ok_iff.mp h
    have hEncode : t.encode = stringLiteral s := congrArg stringLiteral hSource
    rw [hEncode]
    refine ⟨hSource, rfl, ?_, fun t' => ?_, stringLiteral_eq_verbatim_iff⟩
    · rw [decodeText_stringLiteral, mapError_eq_ok_iff, ofLeading_owned, ofDecoded_eq_ok_iff, h]
    · rw [decodeText_borrowed_eq_ok_iff, h, Except.ok.injEq, eq_comm]
  · intro e h
    have hDecoded : ofDecoded s = .error (.content e.message) := by
      rw [ofDecoded, h]
      rfl
    refine ⟨ofText_eq_error_iff.mp h, hDecoded, ?_, ?_⟩
    · rw [decodeText_stringLiteral, ofLeading_owned, hDecoded]
      rfl
    · rw [decodeValue_stringLiteral, hDecoded]
      rfl

end LogMarkup.Template
