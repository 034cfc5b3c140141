import LogMarkup.Proofs.Expansion.Prescanned

/-!
# Templates filled with tokens

An expanded template is the template with a token in place of each placeholder. A token tells the
value that was written for the placeholder, or the error, and then nothing of what was written in
front of the error. What is in the buffer before stays there and has no influence.

* `Answer.token`: the token for an answer, and `fill`: the text of parts with such tokens.
* `Resolver.rendered_eq_fill`: expanding is filling in the tokens for the answers of a resolver.
* `Template.exists_source_eq_append`: where the placeholders of a template are.
* `expandInto_fills_template`: the text, the questions, the result and the failures together.
-/

namespace LogMarkup

variable {σ : Type}

/-! ## Tokens -/

/-- What stands in the message for a placeholder. -/
def Answer.token (name : Text) (answer : Answer) : Text :=
  match answer.result with
  | .ok _ => delimiter :: name ++ nameSeparator :: escape answer.text ++ [delimiter]
  | .error error =>
    delimiter :: name ++ errorMarker :: '(' :: escape error.message ++ [')', delimiter]

theorem Answer.source_argument (name : Text) (answer : Answer) :
    (answer.argument name).source = answer.token name := by
  cases hResult : answer.result <;>
    simp [Answer.argument, Answer.token, Argument.source, hResult]

/-- The text of the parts, with a token in place of each placeholder. -/
def fill : List Part → List Text → Text
  | .literal t :: rest, tokens => t ++ fill rest tokens
  | .placeholder _ :: rest, token :: tokens => token ++ fill rest tokens
  | _, _ => []

/-- The tokens for placeholders that a resolver is asked for one after another. -/
def Resolver.tokens (r : Resolver σ) (placeholders : List Placeholder) (s : σ) : List Text :=
  (r.ask placeholders s).1.map fun (p, answer) => answer.token p.name

theorem Resolver.rendered_eq_fill (r : Resolver σ) (parts : List Part) (s : σ) :
    r.rendered parts s = fill parts (r.tokens (placeholdersOf parts) s) := by
  induction parts generalizing s with
  | nil => rfl
  | cons part rest ih =>
    cases part with
    | literal t =>
      rw [Resolver.rendered_literal, ih]
      rfl
    | placeholder p =>
      rw [Resolver.rendered_placeholder, ih, Answer.source_argument]
      rfl

/-! ## Calls -/

theorem Resolver.map_fst_ask (r : Resolver σ) (placeholders : List Placeholder) (s : σ) :
    (r.ask placeholders s).1.map Prod.fst = placeholders := by
  induction placeholders generalizing s with
  | nil => rfl
  | cons p rest ih => rw [Resolver.ask_cons, List.map_cons, ih]

theorem Placeholder.failure?_eq_none_iff {p : Placeholder} {answer : Answer} :
    p.failure? answer = none ↔ answer.result = .ok () := by
  cases hResult : answer.result <;> simp [Placeholder.failure?, hResult]

theorem Resolver.failures_eq_nil_iff {r : Resolver σ} {parts : List Part} {s : σ} :
    r.failures parts s = [] ↔
      ∀ call ∈ (r.ask (placeholdersOf parts) s).1, call.2.result = .ok () := by
  rw [Resolver.failures, List.filterMap_eq_nil_iff]
  exact forall₂_congr fun call _ => Placeholder.failure?_eq_none_iff

theorem result_expandInto_eq_ok_iff {source : Text} {parts : List Part}
    (h : scan source = (parts, none)) (b : Buffer) (r : Resolver σ) (s : σ) :
    (expandInto b source r s).result = .ok () ↔
      ∀ call ∈ (r.ask (placeholdersOf parts) s).1, call.2.result = .ok () := by
  rw [← Resolver.failures_eq_nil_iff, result_expandInto h]
  by_cases hNone : r.failures parts s = [] <;> simp [hNone]

/-! ## Templates -/

/-- A placeholder starts at the byte offset of its opening delimiter. -/
theorem Template.exists_source_eq_append (t : Template) {p : Placeholder}
    (h : p ∈ t.placeholders) :
    ∃ before after, t.source = before ++ p.source ++ after ∧ p.start = byteLength before := by
  obtain ⟨hTiled, hSource⟩ := scan_eq_ok_iff.mp t.scan_source
  obtain ⟨part, hPart, hPlaceholder⟩ := List.mem_filterMap.mp h
  obtain rfl : part = .placeholder p := by
    cases part with
    | literal u => cases hPlaceholder
    | placeholder q => rw [Option.some.inj hPlaceholder]
  obtain ⟨front, back, hParts⟩ := List.append_of_mem hPart
  rw [hParts] at hTiled hSource
  obtain ⟨⟨hFits, -⟩, -⟩ := hTiled.of_append
  refine ⟨sourceOf front, sourceOf back, ?_, ?_⟩
  · rw [hSource, sourceOf_append, sourceOf_cons, List.append_assoc]
    rfl
  · rw [hFits.start_eq, Nat.zero_add]

theorem Template.text_expandInto_source (t : Template) (b : Buffer) (r : Resolver σ) (s : σ) :
    (LogMarkup.expandInto b t.source r s).buffer.text =
      b.text ++ fill t.parts (r.tokens t.placeholders s) := by
  rw [text_expandInto t.scan_source, r.rendered_eq_fill]
  rfl

theorem Template.state_expandInto_source (t : Template) (b : Buffer) (r : Resolver σ) (s : σ) :
    (LogMarkup.expandInto b t.source r s).state = (r.ask t.placeholders s).2 := by
  rw [state_expandInto_scan, t.scan_source]
  rfl

/-- A template is expanded by filling in the tokens for the answers of the resolver, behind
whatever is in the buffer. The resolver is asked once for each placeholder, in order, and goes on
to be asked after it failed. The result is a success iff it never failed, and else tells the
filled template and all failures. -/
theorem expandInto_fills_template (t : Template) (r : Resolver σ) (s : σ) :
    let calls := (r.ask t.placeholders s).1
    let message := fill t.parts (calls.map fun (p, answer) => answer.token p.name)
    (sourceOf t.parts = t.source ∧ calls.map Prod.fst = t.placeholders) ∧
    (∀ p ∈ t.placeholders, ∃ before after,
      t.source = before ++ p.source ++ after ∧ p.start = byteLength before) ∧
    ∀ b : Buffer,
      let x := expandInto b t.source r s
      t.expandInto b r s = x ∧
      x.buffer.text = b.text ++ message ∧
      requests b t.source r s = t.placeholders.map Placeholder.request ∧
      x.state = (r.ask t.placeholders s).2 ∧
      (x.result = .ok () ↔ ∀ call ∈ calls, call.2.result = .ok ()) ∧
      (x.result ≠ .ok () → x.result = .error (.unresolved ⟨message,
        calls.filterMap fun (p, answer) => p.failure? answer⟩)) := by
  intro calls message
  have hMessage : r.rendered t.parts s = message := r.rendered_eq_fill t.parts s
  refine ⟨⟨(scan_eq_ok_iff.mp t.scan_source).2.symm, r.map_fst_ask t.placeholders s⟩,
    fun p hp => t.exists_source_eq_append hp, ?_⟩
  intro b x
  refine ⟨t.expandInto_eq b r s, t.text_expandInto_source b r s, ?_,
    t.state_expandInto_source b r s, result_expandInto_eq_ok_iff t.scan_source b r s, ?_⟩
  · rw [requests, expandInto_logged, t.scan_source]
    rfl
  · intro hFailed
    have hResult := result_expandInto t.scan_source b r s
    by_cases hNone : r.failures t.parts s = []
    · rw [if_pos hNone] at hResult
      exact absurd hResult hFailed
    · rw [if_neg hNone, hMessage] at hResult
      exact hResult

/-- What was written in front of the error is gone, and the placeholder behind it has its value. -/
example :
    let r : Resolver Unit := .answering fun _ name =>
      if name = ['b'] then .direct ⟨[.text "half".toList], .error (.custom "no `b`".toList)⟩
      else .direct (.done [.text "ha".toList, .char 'l', .char 'f'])
    (expandInto (.ofText "keep ".toList) "`a` `b` `a`".toList r ()).buffer.text =
      "keep `a:half` `b!(no ``b``)` `a:half`".toList := by
  decide +kernel

end LogMarkup
