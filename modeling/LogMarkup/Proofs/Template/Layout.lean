import LogMarkup.Proofs.Template.Scanning
import LogMarkup.Proofs.Text.Slice

/-!
# The grammar and the layout of templates

The texts that are templates are those made of certain tokens. Tokens are smaller than parts: a
part of literal text is made of as many plain characters and doubled delimiters as stand in a row.

* `Token`, `exists_tokens`, `exists_parts`: parts that tile a text give well-formed tokens of it,
  and the other way round.
* `Template.offset`, `Template.existsUnique_offset`: each byte of a template lies in one part.
* `Part.Placed`, `Template.placed`: what is said of a part by the parts around it.
* `ofText_grammar_and_layout`: which texts are templates, and where their parts are.
-/

namespace LogMarkup

/-! ## Tokens -/

/-- What templates are made of. -/
inductive Token where
  /-- A character other than the delimiter. -/
  | plain (c : Char)
  /-- A doubled delimiter. -/
  | doubled
  /-- A name, and the digits of an explicit index if there is one. -/
  | placeholder (name : Text) (digits : Option Text)
  deriving DecidableEq, Repr

namespace Token

def source : Token → Text
  | .plain c => [c]
  | .doubled => [delimiter, delimiter]
  | .placeholder name digits =>
    delimiter :: name ++ digits.elim [] (nameSeparator :: ·) ++ [delimiter]

def WellFormed : Token → Prop
  | .plain c => c ≠ delimiter
  | .doubled => True
  | .placeholder name digits => IsName name ∧ ∀ d ∈ digits, IsIndex d

/-- The name and the explicit index of a placeholder. -/
def slot? : Token → Option (Text × Option Text)
  | .placeholder name digits => some (name, digits)
  | _ => none

end Token

def Placeholder.slot (p : Placeholder) : Text × Option Text := (p.name, p.digits)

/-- The text that is made of tokens. -/
def textOf (tokens : List Token) : Text := tokens.flatMap Token.source

def slotsOf (tokens : List Token) : List (Text × Option Text) := tokens.filterMap Token.slot?

@[simp] theorem textOf_nil : textOf [] = [] := rfl

@[simp] theorem textOf_cons (token : Token) (tokens : List Token) :
    textOf (token :: tokens) = token.source ++ textOf tokens := List.flatMap_cons

@[simp] theorem textOf_append (tokens more : List Token) :
    textOf (tokens ++ more) = textOf tokens ++ textOf more := List.flatMap_append

theorem slotsOf_placeholder (name : Text) (digits : Option Text) (tokens : List Token) :
    slotsOf (.placeholder name digits :: tokens) = (name, digits) :: slotsOf tokens := rfl

theorem exists_tokens_escape (v : Text) :
    ∃ tokens : List Token, (∀ token ∈ tokens, token.WellFormed) ∧ textOf tokens = escape v := by
  induction v with
  | nil => exact ⟨[], by simp, rfl⟩
  | cons c v ih =>
    obtain ⟨tokens, hTokens, hText⟩ := ih
    by_cases hc : c = delimiter
    · refine ⟨.doubled :: tokens, List.forall_mem_cons.mpr ⟨trivial, hTokens⟩, ?_⟩
      simp [hText, escape, hc, Token.source]
    · refine ⟨.plain c :: tokens, List.forall_mem_cons.mpr ⟨hc, hTokens⟩, ?_⟩
      simp [hText, escape, hc, Token.source]

theorem exists_tokens {start automatic : Nat} {parts : List Part}
    (h : Tiled start automatic parts) :
    ∃ tokens : List Token, (∀ token ∈ tokens, token.WellFormed) ∧
      textOf tokens = sourceOf parts := by
  induction parts generalizing start automatic with
  | nil => exact ⟨[], by simp, rfl⟩
  | cons part rest ih =>
    obtain ⟨tokens, hTokens, hText⟩ := ih h.tail
    cases part with
    | literal t =>
      obtain ⟨-, ⟨v, rfl⟩, -⟩ := h
      obtain ⟨literal, hLiteral, hEscape⟩ := exists_tokens_escape v
      refine ⟨literal ++ tokens, ?_, by simp [hEscape, hText, Part.source]⟩
      rw [List.forall_mem_append]
      exact ⟨hLiteral, hTokens⟩
    | placeholder p =>
      obtain ⟨-, hName, hDigits, -⟩ := Placeholder.fits_iff.mp h.1
      refine ⟨.placeholder p.name p.digits :: tokens,
        List.forall_mem_cons.mpr ⟨⟨hName, hDigits⟩, hTokens⟩, ?_⟩
      rw [textOf_cons, hText, sourceOf_cons]
      rfl

theorem exists_parts {tokens : List Token} (h : ∀ token ∈ tokens, token.WellFormed)
    (start automatic : Nat) :
    ∃ parts, Tiled start automatic parts ∧ sourceOf parts = textOf tokens ∧
      (placeholdersOf parts).map Placeholder.slot = slotsOf tokens := by
  induction tokens generalizing start automatic with
  | nil => exact ⟨[], trivial, rfl, rfl⟩
  | cons token rest ih =>
    obtain ⟨hToken, hRest⟩ := List.forall_mem_cons.mp h
    -- Literal text may go on behind the token, so it joins what is there.
    have hLiteral : ∀ v : Text, v ≠ [] → token.source = escape v →
        slotsOf (token :: rest) = slotsOf rest →
        ∃ parts, Tiled start automatic parts ∧ sourceOf parts = textOf (token :: rest) ∧
          (placeholdersOf parts).map Placeholder.slot = slotsOf (token :: rest) := by
      intro v hv hSource hSame
      obtain ⟨parts, hTiled, hText, hSlots⟩ := ih hRest (start + byteLength (escape v)) automatic
      refine ⟨consLiteral (escape v) parts, tiled_consLiteral hv hTiled, ?_, ?_⟩
      · rw [sourceOf_consLiteral, hText, textOf_cons, hSource]
      · rw [placeholdersOf_consLiteral, hSlots, hSame]
    cases token with
    | plain c =>
      have hc : c ≠ delimiter := hToken
      exact hLiteral [c] (by simp) (by simp [Token.source, escape, hc]) rfl
    | doubled => exact hLiteral [delimiter] (by simp) (by simp [Token.source, escape]) rfl
    | placeholder name digits =>
      let p : Placeholder := ⟨start, name, digits, digits.elim automatic readDecimal⟩
      have hFits : p.Fits start automatic :=
        Placeholder.fits_iff.mpr ⟨rfl, hToken.1, hToken.2, rfl⟩
      obtain ⟨parts, hTiled, hText, hSlots⟩ :=
        ih hRest (start + byteLength p.source) (p.automaticAfter automatic)
      refine ⟨.placeholder p :: parts, ⟨hFits, hTiled⟩, ?_, ?_⟩
      · rw [sourceOf_cons, hText, textOf_cons]
        rfl
      · rw [placeholdersOf_placeholder, List.map_cons, hSlots, slotsOf_placeholder]
        rfl

theorem exists_template_iff_tokens {source : Text} :
    (∃ t, Template.ofText source = .ok t) ↔
      ∃ tokens : List Token, (∀ token ∈ tokens, token.WellFormed) ∧ textOf tokens = source := by
  constructor
  · rintro ⟨t, hText⟩
    obtain rfl := Template.ofText_eq_ok_iff.mp hText
    obtain ⟨hTiled, hSource⟩ := scan_eq_ok_iff.mp t.scan_source
    rw [hSource]
    exact exists_tokens hTiled
  · rintro ⟨tokens, hTokens, rfl⟩
    obtain ⟨parts, hTiled, hSource, -⟩ := exists_parts hTokens 0 0
    exact ⟨_, Template.ofText_of_scan (scan_eq_ok_iff.mpr ⟨hTiled, hSource.symm⟩)⟩

theorem Template.slots_eq (t : Template) {tokens : List Token}
    (hTokens : ∀ token ∈ tokens, token.WellFormed) (hSource : textOf tokens = t.source) :
    t.placeholders.map Placeholder.slot = slotsOf tokens := by
  obtain ⟨parts, hTiled, hText, hSlots⟩ := exists_parts hTokens 0 0
  have hScan : scan t.source = (parts, none) :=
    scan_eq_ok_iff.mpr ⟨hTiled, by rw [hText, hSource]⟩
  have hParts : parts = t.parts := congrArg Prod.fst (hScan.symm.trans t.scan_source)
  rw [Template.placeholders, ← hParts, hSlots]

/-! ## Offsets -/

/-- The byte offset of the part with an index, or of the end of the template. -/
def Template.offset (t : Template) (k : Nat) : Nat := byteLength (sourceOf (t.parts.take k))

theorem Template.sourceOf_parts (t : Template) : sourceOf t.parts = t.source :=
  (scan_eq_ok_iff.mp t.scan_source).2.symm

theorem byteLength_sourceOf_take_mono (parts : List Part) {i k : Nat} (h : i ≤ k) :
    byteLength (sourceOf (parts.take i)) ≤ byteLength (sourceOf (parts.take k)) := by
  obtain ⟨more, hMore⟩ := List.take_prefix_take_left h (l := parts)
  rw [← hMore, sourceOf_append, byteLength_append]
  omega

theorem exists_part_at {parts : List Part} {n : Nat} (h : n < byteLength (sourceOf parts)) :
    ∃ k < parts.length, byteLength (sourceOf (parts.take k)) ≤ n ∧
      n < byteLength (sourceOf (parts.take (k + 1))) := by
  induction parts generalizing n with
  | nil => simp at h
  | cons part rest ih =>
    rw [sourceOf_cons, byteLength_append] at h
    by_cases hFirst : n < byteLength part.source
    · exact ⟨0, by simp, by simp, by simpa using hFirst⟩
    · obtain ⟨k, hk, hStart, hStop⟩ := ih (n := n - byteLength part.source) (by omega)
      refine ⟨k + 1, by simpa using hk, ?_, ?_⟩
      · rw [List.take_succ_cons, sourceOf_cons, byteLength_append]
        omega
      · rw [List.take_succ_cons, sourceOf_cons, byteLength_append]
        omega

theorem Template.existsUnique_offset (t : Template) {n : Nat} (h : n < byteLength t.source) :
    ∃! k, k < t.parts.length ∧ t.offset k ≤ n ∧ n < t.offset (k + 1) := by
  rw [← t.sourceOf_parts] at h
  obtain ⟨k, hk, hStart, hStop⟩ := exists_part_at h
  refine ⟨k, ⟨hk, hStart, hStop⟩, ?_⟩
  rintro i ⟨-, hiStart, hiStop⟩
  -- Two parts that both have the byte would overlap, as the offsets never go down.
  rcases Nat.lt_trichotomy i k with hLt | rfl | hLt
  · have hMono := byteLength_sourceOf_take_mono t.parts (Nat.succ_le_of_lt hLt)
    exact absurd (Nat.lt_of_lt_of_le hiStop (Nat.le_trans hMono hStart)) (Nat.lt_irrefl n)
  · rfl
  · have hMono := byteLength_sourceOf_take_mono t.parts (Nat.succ_le_of_lt hLt)
    exact absurd (Nat.lt_of_lt_of_le hStop (Nat.le_trans hMono hiStart)) (Nat.lt_irrefl n)

theorem Template.slice?_offset (t : Template) {k : Nat} {part : Part}
    (h : t.parts[k]? = some part) :
    slice? t.source (t.offset k) (t.offset (k + 1)) = some part.source := by
  obtain ⟨hk, rfl⟩ := List.getElem?_eq_some_iff.mp h
  have hParts : t.parts = t.parts.take k ++ t.parts[k] :: t.parts.drop (k + 1) := by simp
  have hSource : t.source = sourceOf (t.parts.take k) ++ t.parts[k].source ++
      sourceOf (t.parts.drop (k + 1)) := by
    rw [← t.sourceOf_parts, List.append_assoc, ← sourceOf_cons, ← sourceOf_append, ← hParts]
  refine slice?_eq_some_iff.mpr ⟨_, _, hSource, rfl, ?_⟩
  rw [Template.offset, Template.offset, List.take_succ_eq_append_getElem hk, sourceOf_append,
    byteLength_append, sourceOf_cons, sourceOf_nil, List.append_nil]

/-! ## Places -/

/-- What the parts before and after it say of a part. -/
inductive Part.Placed (before after : List Part) : Part → Prop where
  | literal {t : Text} (hNe : t ≠ []) (hEscaped : ∃ v, t = escape v)
      (hBefore : ∀ part ∈ before.getLast?, part.IsPlaceholder)
      (hAfter : ∀ part ∈ after.head?, part.IsPlaceholder) : Placed before after (.literal t)
  | placeholder {p : Placeholder} (hStart : p.start = byteLength (sourceOf before))
      (hName : IsName p.name) (hDigits : ∀ digits ∈ p.digits, IsIndex digits)
      (hIndex : p.index = p.digits.elim (before.countP Part.isAutomatic) readDecimal) :
      Placed before after (.placeholder p)

theorem Tiled.placed {before after : List Part} {part : Part}
    (h : Tiled 0 0 (before ++ part :: after)) : part.Placed before after := by
  obtain ⟨hBack, hJoint⟩ := h.of_append
  rw [Nat.zero_add, Nat.zero_add] at hBack
  cases part with
  | literal t =>
    obtain ⟨hNe, hEscaped, hAfter, -⟩ := hBack
    refine .literal hNe hEscaped ?_ hAfter
    intro last hLast
    -- This part is literal text, so it is the one before that is a placeholder.
    rcases hJoint last hLast with hPlaceholder | hNext
    · exact hPlaceholder
    · exact absurd (hNext _ rfl) id
  | placeholder p =>
    obtain ⟨hStart, hName, hDigits, hIndex⟩ := Placeholder.fits_iff.mp hBack.1
    exact .placeholder hStart hName hDigits hIndex

theorem Template.placed (t : Template) {k : Nat} {part : Part} (h : t.parts[k]? = some part) :
    part.Placed (t.parts.take k) (t.parts.drop (k + 1)) := by
  obtain ⟨hk, rfl⟩ := List.getElem?_eq_some_iff.mp h
  have hTiled := (scan_eq_ok_iff.mp t.scan_source).1
  apply Tiled.placed
  simpa using hTiled

theorem Template.slice?_name (t : Template) {k : Nat} {p : Placeholder}
    (h : t.parts[k]? = some (.placeholder p)) :
    slice? t.source (p.start + 1) (p.start + 1 + byteLength p.name) = some p.name := by
  obtain ⟨before, after, hSource, hBefore, -⟩ := slice?_eq_some_iff.mp (t.slice?_offset h)
  have hStart : p.start = byteLength before := by
    cases t.placed h with
    | placeholder hStart => exact hStart.trans hBefore.symm
  refine slice?_eq_some_iff.mpr ⟨before ++ [delimiter],
    p.digits.elim [] (nameSeparator :: ·) ++ delimiter :: after, ?_, ?_, rfl⟩
  · simp [hSource, Part.source, Placeholder.source]
  · rw [byteLength_append, hStart]
    rfl

/-- The texts that are templates are those made of well-formed tokens. The parts of a template
lie one behind the other from its start to its end; literal text stands between placeholders, and
placeholders are those of the tokens. -/
theorem ofText_grammar_and_layout (source : Text) :
    ((∃ t, Template.ofText source = .ok t) ↔
      ∃ tokens : List Token, (∀ token ∈ tokens, token.WellFormed) ∧ textOf tokens = source) ∧
    ∀ t, Template.ofText source = .ok t →
      (∀ tokens : List Token, (∀ token ∈ tokens, token.WellFormed) → textOf tokens = source →
        t.placeholders.map Placeholder.slot = slotsOf tokens ∧
          t.names = (slotsOf tokens).map Prod.fst) ∧
      (∀ n < byteLength source, ∃! k, k < t.parts.length ∧ t.offset k ≤ n ∧
        n < t.offset (k + 1)) ∧
      (∀ k part, t.parts[k]? = some part →
        slice? source (t.offset k) (t.offset (k + 1)) = some part.source ∧
          part.Placed (t.parts.take k) (t.parts.drop (k + 1))) ∧
      ∀ p ∈ t.placeholders,
        slice? source (p.start + 1) (p.start + 1 + byteLength p.name) = some p.name := by
  refine ⟨exists_template_iff_tokens, ?_⟩
  intro t hText
  obtain rfl := Template.ofText_eq_ok_iff.mp hText
  refine ⟨?_, fun n hn => t.existsUnique_offset hn, ?_, ?_⟩
  · intro tokens hTokens hSource
    have hSlots := t.slots_eq hTokens hSource
    refine ⟨hSlots, ?_⟩
    rw [t.names_eq, ← hSlots, List.map_map]
    rfl
  · intro k part hPart
    exact ⟨t.slice?_offset hPart, t.placed hPart⟩
  · intro p hp
    obtain ⟨part, hPart, hPlaceholder⟩ := List.mem_filterMap.mp hp
    obtain ⟨k, hk⟩ := List.mem_iff_getElem?.mp hPart
    cases part with
    | literal t => cases hPlaceholder
    | placeholder q =>
      obtain rfl : q = p := Option.some.inj hPlaceholder
      exact t.slice?_name hk

end LogMarkup
