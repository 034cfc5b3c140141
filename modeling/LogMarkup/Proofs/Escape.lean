import LogMarkup.Escape

/-!
# Escaped texts

In an escaped text every delimiter is one of a doubled pair, so none of it opens or closes an
argument. The converse holds as well, and makes the cut at the first unpaired delimiter exact:

* `cutSingle_eq_none_iff`: a text has no unpaired delimiter iff it is an escaped text.
* `cutSingle_eq_some_iff`: what stands in front of the first unpaired delimiter is an escaped
  text, and no delimiter follows it. Nothing else is asked for.
* `escape_injective`, `hasDoubled_escape`: an escaped text tells what it was made from, and has
  a doubled delimiter iff there was a delimiter to be doubled.
-/

namespace LogMarkup

/-! ## Cutting in front of more text -/

theorem cutSingle_cons_of_ne {c : Char} (hc : c ≠ delimiter) (t : Text) :
    cutSingle delimiter (c :: t) =
      (cutSingle delimiter t).map fun (before, after) => (c :: before, after) := by
  cases t with
  | nil => simp [cutSingle, hc]
  | cons d rest => simp [cutSingle, hc]

theorem cutSingle_pair (t : Text) :
    cutSingle delimiter (delimiter :: delimiter :: t) =
      (cutSingle delimiter t).map fun (before, after) =>
        (delimiter :: delimiter :: before, after) := by
  simp [cutSingle]

theorem cutSingle_delimiter {t : Text} (h : t.head? ≠ some delimiter) :
    cutSingle delimiter (delimiter :: t) = some ([], t) := by
  cases t with
  | nil => simp [cutSingle]
  | cons d rest =>
    have hd : d ≠ delimiter := by simpa using h
    simp [cutSingle, hd]

theorem cutSingle_escape (v : Text) : cutSingle delimiter (escape v) = none := by
  induction v with
  | nil => rfl
  | cons c v ih =>
    by_cases hc : c = delimiter
    · simp [escape, hc, cutSingle_pair, ih]
    · simp [escape, hc, cutSingle_cons_of_ne hc, ih]

theorem cutSingle_escape_append (v : Text) {after : Text} (h : after.head? ≠ some delimiter) :
    cutSingle delimiter (escape v ++ delimiter :: after) = some (escape v, after) := by
  induction v with
  | nil => exact cutSingle_delimiter h
  | cons c v ih =>
    by_cases hc : c = delimiter
    · simp [escape, hc, cutSingle_pair, ih]
    · simp [escape, hc, cutSingle_cons_of_ne hc, ih]

/-! ## What a cut says about the text -/

theorem exists_escape_of_cutSingle_none {t : Text} (h : cutSingle delimiter t = none) :
    ∃ v, t = escape v := by
  fun_induction cutSingle delimiter t with
  | case1 => exact ⟨[], rfl⟩
  | case2 => cases h
  | case3 c hc => exact ⟨[c], by simp [escape, hc]⟩
  | case4 rest ih =>
    obtain ⟨v, hv⟩ := ih (Option.map_eq_none_iff.mp h)
    exact ⟨delimiter :: v, by simp [escape, hv]⟩
  | case5 => cases h
  | case6 c d rest hc ih =>
    obtain ⟨v, hv⟩ := ih (Option.map_eq_none_iff.mp h)
    exact ⟨c :: v, by simp [escape, hc, hv]⟩

theorem cutSingle_eq_none_iff {t : Text} : cutSingle delimiter t = none ↔ ∃ v, t = escape v := by
  constructor
  · exact exists_escape_of_cutSingle_none
  · rintro ⟨v, rfl⟩
    exact cutSingle_escape v

theorem exists_escape_of_cutSingle {t before after : Text}
    (h : cutSingle delimiter t = some (before, after)) :
    (∃ v, before = escape v) ∧ after.head? ≠ some delimiter := by
  fun_induction cutSingle delimiter t generalizing before after with
  | case1 => cases h
  | case2 =>
    cases h
    exact ⟨⟨[], rfl⟩, by simp⟩
  | case3 => cases h
  | case4 rest ih =>
    obtain ⟨⟨b, a⟩, hCut, hEq⟩ := Option.map_eq_some_iff.mp h
    cases hEq
    obtain ⟨⟨v, rfl⟩, hAfter⟩ := ih hCut
    exact ⟨⟨delimiter :: v, by simp [escape]⟩, hAfter⟩
  | case5 d rest hd =>
    cases h
    exact ⟨⟨[], rfl⟩, by simpa using hd⟩
  | case6 c d rest hc ih =>
    obtain ⟨⟨b, a⟩, hCut, hEq⟩ := Option.map_eq_some_iff.mp h
    cases hEq
    obtain ⟨⟨v, rfl⟩, hAfter⟩ := ih hCut
    exact ⟨⟨c :: v, by simp [escape, hc]⟩, hAfter⟩

theorem cutSingle_eq_some_iff {t before after : Text} :
    cutSingle delimiter t = some (before, after) ↔
      t = before ++ delimiter :: after ∧ (∃ v, before = escape v) ∧
        after.head? ≠ some delimiter := by
  constructor
  · intro h
    exact ⟨cutSingle_eq_some h, exists_escape_of_cutSingle h⟩
  · rintro ⟨rfl, ⟨v, rfl⟩, hAfter⟩
    exact cutSingle_escape_append v hAfter

/-- A text is escaped up to its end or up to a single delimiter. -/
theorem escaped_or_single (t : Text) :
    (∃ v, t = escape v) ∨
      ∃ v rest, t = escape v ++ delimiter :: rest ∧ rest.head? ≠ some delimiter := by
  cases hCut : cutSingle delimiter t with
  | none => exact .inl (cutSingle_eq_none_iff.mp hCut)
  | some cut =>
    obtain ⟨before, rest⟩ := cut
    obtain ⟨hText, ⟨v, rfl⟩, hRest⟩ := cutSingle_eq_some_iff.mp hCut
    exact .inr ⟨v, rest, hText, hRest⟩

/-! ## What an escaped text was made from -/

theorem escape_injective {s t : Text} (h : escape s = escape t) : s = t := by
  rw [← unescape_escape s, h, unescape_escape]

theorem escape_eq_nil_iff {t : Text} : escape t = [] ↔ t = [] := by
  constructor
  · intro h
    exact escape_injective h
  · rintro rfl
    rfl

theorem escape_ne_nil_iff {v : Text} : escape v ≠ [] ↔ v ≠ [] := not_congr escape_eq_nil_iff

theorem hasDoubled_cons_of_ne {c : Char} (hc : c ≠ delimiter) (t : Text) :
    hasDoubled (c :: t) = hasDoubled t := by
  cases t with
  | nil => rfl
  | cons d rest => simp [hasDoubled, hc]

theorem hasDoubled_escape (t : Text) : hasDoubled (escape t) = decide (delimiter ∈ t) := by
  induction t with
  | nil => rfl
  | cons c t ih =>
    by_cases hc : c = delimiter
    · simp [escape, hc, hasDoubled]
    · simp [escape, hc, hasDoubled_cons_of_ne hc, ih, Ne.symm hc]

/-- A last character that is no delimiter was not written by doubling one. -/
theorem exists_escape_of_concat {v before : Text} {c : Char} (hc : c ≠ delimiter)
    (h : escape v = before ++ [c]) : ∃ w, before = escape w ∧ v = w ++ [c] := by
  rcases List.eq_nil_or_concat v with rfl | ⟨w, d, rfl⟩
  · simp at h
  · rw [List.concat_eq_append, escape_append] at h
    by_cases hd : d = delimiter
    · have hLast := congrArg List.getLast? h
      simp [escape, hd] at hLast
      exact absurd hLast.symm hc
    · have hSplit : escape w ++ [d] = before ++ [c] := by simpa [escape, hd] using h
      obtain ⟨rfl, hEq⟩ := List.append_inj' hSplit rfl
      cases hEq
      exact ⟨w, rfl, List.concat_eq_append⟩

end LogMarkup
