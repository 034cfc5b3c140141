import LogMarkup.Expansion
import LogMarkup.Proofs.Template.Scanning

/-!
# What an expansion writes

The outcome of an expansion as functions of the parts, the resolver and its state, without the
buffer and the progress that lead there.

* `Resolver.ask`: the answers to placeholders, which are asked one after another.
* `Resolver.rendered`, `Resolver.failures`: the text that is written, and what failed.
* `Scanner.expandAll_eq`: expanding while scanning is scanning first and expanding then.
* `expandInto_of_error`: the outcome for a text with an error.
* `buffer_expandInto`, `text_expandInto_scan`, `state_expandInto_scan`: what is the same with and
  without an error.
* `text_expandInto`, `result_expandInto`: the outcome for a template without error.
-/

namespace LogMarkup

variable {σ : Type}

/-! ## Answers -/

/-- Asks a resolver for one placeholder after another, and gives the state that it is left in. -/
def Resolver.ask (r : Resolver σ) : List Placeholder → σ → List (Placeholder × Answer) × σ
  | [], s => ([], s)
  | p :: rest, s =>
    let (answer, s) := r p.index p.name s
    let (asked, s) := r.ask rest s
    ((p, answer) :: asked, s)

@[simp] theorem Resolver.ask_nil (r : Resolver σ) (s : σ) : r.ask [] s = ([], s) := rfl

@[simp] theorem Resolver.ask_cons (r : Resolver σ) (p : Placeholder) (rest : List Placeholder)
    (s : σ) :
    r.ask (p :: rest) s =
      ((p, (r p.index p.name s).1) :: (r.ask rest (r p.index p.name s).2).1,
        (r.ask rest (r p.index p.name s).2).2) := rfl

/-- The argument that stands in the message for an answer. -/
def Answer.argument (name : Text) (answer : Answer) : Argument :=
  match answer.result with
  | .ok _ => ⟨name, escape answer.text, false⟩
  | .error error => ⟨name, escape error.message, true⟩

def Placeholder.failure? (p : Placeholder) (answer : Answer) : Option FailedArgument :=
  match answer.result with
  | .ok _ => none
  | .error error => some ⟨p.start, p.index, p.name, error⟩

/-- The text that parts are expanded to. -/
def Resolver.rendered (r : Resolver σ) : List Part → σ → Text
  | [], _ => []
  | .literal t :: rest, s => t ++ r.rendered rest s
  | .placeholder p :: rest, s =>
    let (answer, s) := r p.index p.name s
    (answer.argument p.name).source ++ r.rendered rest s

/-- The arguments among the parts that have no value. -/
def Resolver.failures (r : Resolver σ) (parts : List Part) (s : σ) : List FailedArgument :=
  (r.ask (placeholdersOf parts) s).1.filterMap fun (p, answer) => p.failure? answer

@[simp] theorem Resolver.rendered_nil (r : Resolver σ) (s : σ) : r.rendered [] s = [] := rfl

@[simp] theorem Resolver.rendered_literal (r : Resolver σ) (t : Text) (rest : List Part) (s : σ) :
    r.rendered (.literal t :: rest) s = t ++ r.rendered rest s := rfl

@[simp] theorem Resolver.rendered_placeholder (r : Resolver σ) (p : Placeholder)
    (rest : List Part) (s : σ) :
    r.rendered (.placeholder p :: rest) s =
      ((r p.index p.name s).1.argument p.name).source ++
        r.rendered rest (r p.index p.name s).2 := rfl

/-! ## Expanding parts -/

theorem Buffer.text_writeArgument (b : Buffer) (name : Text) (answer : Answer) :
    (b.writeArgument name answer).text = b.text ++ (answer.argument name).source := by
  cases hResult : answer.result with
  | ok =>
    simp [Buffer.writeArgument, hResult, Buffer.text_writeAll, Answer.argument, Argument.source,
      Answer.text, Writing.text]
  | error error =>
    simp [Buffer.writeArgument, hResult, Buffer.text_pushEscaped, Answer.argument,
      Argument.source]

namespace Progress

/-- Expands parts one after another. -/
def expandParts (x : Progress σ) (r : Resolver σ) (parts : List Part) : Progress σ :=
  parts.foldl (fun x part => x.expandPart r part) x

theorem expandParts_cons (x : Progress σ) (r : Resolver σ) (part : Part) (rest : List Part) :
    x.expandParts r (part :: rest) = (x.expandPart r part).expandParts r rest := rfl

theorem text_expandParts (x : Progress σ) (r : Resolver σ) (parts : List Part) :
    (x.expandParts r parts).buffer.text = x.buffer.text ++ r.rendered parts x.state := by
  induction parts generalizing x with
  | nil => simp [expandParts]
  | cons part rest ih =>
    rw [expandParts_cons, ih]
    cases part with
    | literal t => simp [expandPart]
    | placeholder p => simp [expandPart, expandPlaceholder, Buffer.text_writeArgument]

theorem state_expandParts (x : Progress σ) (r : Resolver σ) (parts : List Part) :
    (x.expandParts r parts).state = (r.ask (placeholdersOf parts) x.state).2 := by
  induction parts generalizing x with
  | nil => rfl
  | cons part rest ih =>
    rw [expandParts_cons, ih]
    cases part <;> rfl

theorem failures_expandParts (x : Progress σ) (r : Resolver σ) (parts : List Part) :
    (x.expandParts r parts).failures = x.failures ++ r.failures parts x.state := by
  induction parts generalizing x with
  | nil => simp [expandParts, Resolver.failures]
  | cons part rest ih =>
    rw [expandParts_cons, ih]
    cases part with
    | literal t => rfl
    | placeholder p =>
      cases hResult : (r p.index p.name x.state).1.result with
      | ok =>
        simp [expandPart, expandPlaceholder, Resolver.failures, Placeholder.failure?, hResult]
      | error error =>
        simp [expandPart, expandPlaceholder, Resolver.failures, Placeholder.failure?, hResult]

end Progress

/-! ## Expanding templates -/

theorem Scanner.expandAll_eq (s : Scanner) (r : Resolver σ) (x : Progress σ) :
    s.expandAll r x = (s.run.2, x.expandParts r s.run.1) := by
  fun_induction Scanner.expandAll s r x with
  | case1 s x hNext =>
    rw [Scanner.run_of_none hNext]
    rfl
  | case2 s x error s' hNext =>
    rw [Scanner.run_of_error hNext]
    rfl
  | case3 s x part s' hNext ih =>
    rw [ih, Scanner.run_of_ok hNext]
    rfl

theorem expandInto_of_scan {source : Text} {parts : List Part} (h : scan source = (parts, none))
    (b : Buffer) (r : Resolver σ) (s : σ) :
    expandInto b source r s =
      ((Progress.start b s).expandParts r parts).finish b.text := by
  change (Scanner.start source).run = (parts, none) at h
  rw [expandInto, Scanner.expandAll_eq, h]

/-- An error stops the expansion behind the parts in front of it, whatever failed among them. -/
theorem expandInto_of_error {source : Text} {error : SyntaxError}
    (h : (scan source).2 = some error) (b : Buffer) (r : Resolver σ) (s : σ) :
    expandInto b source r s =
      ⟨.error (.malformed error), ((Progress.start b s).expandParts r (scan source).1).buffer,
        ((Progress.start b s).expandParts r (scan source).1).state⟩ := by
  change (Scanner.start source).run.2 = some error at h
  rw [expandInto, Scanner.expandAll_eq, h]
  rfl

/-- The parts are expanded whether there is an error behind them or not. -/
theorem buffer_expandInto (b : Buffer) (source : Text) (r : Resolver σ) (s : σ) :
    (expandInto b source r s).buffer =
      ((Progress.start b s).expandParts r (scan source).1).buffer := by
  cases hError : (scan source).2 with
  | none =>
    rw [expandInto_of_scan (Prod.ext rfl hError)]
    rfl
  | some error => rw [expandInto_of_error hError]

theorem state_expandInto_scan (b : Buffer) (source : Text) (r : Resolver σ) (s : σ) :
    (expandInto b source r s).state = (r.ask (placeholdersOf (scan source).1) s).2 := by
  have hState := Progress.state_expandParts (Progress.start b s) r (scan source).1
  cases hError : (scan source).2 with
  | none =>
    rw [expandInto_of_scan (Prod.ext rfl hError)]
    exact hState
  | some error =>
    rw [expandInto_of_error hError]
    exact hState

theorem text_expandInto_scan (b : Buffer) (source : Text) (r : Resolver σ) (s : σ) :
    (expandInto b source r s).buffer.text = b.text ++ r.rendered (scan source).1 s := by
  rw [buffer_expandInto]
  exact Progress.text_expandParts (Progress.start b s) r (scan source).1

/-- What is appended does not depend on what is there. -/
theorem text_expandInto_eq_append (b : Buffer) (source : Text) (r : Resolver σ) (s : σ) :
    (expandInto b source r s).buffer.text =
      b.text ++ (expandInto .empty source r s).buffer.text := by
  rw [text_expandInto_scan, text_expandInto_scan .empty, Buffer.text_empty, List.nil_append]

theorem text_expandInto {source : Text} {parts : List Part} (h : scan source = (parts, none))
    (b : Buffer) (r : Resolver σ) (s : σ) :
    (expandInto b source r s).buffer.text = b.text ++ r.rendered parts s := by
  rw [text_expandInto_scan, h]

theorem result_expandInto {source : Text} {parts : List Part} (h : scan source = (parts, none))
    (b : Buffer) (r : Resolver σ) (s : σ) :
    (expandInto b source r s).result =
      if r.failures parts s = [] then .ok ()
      else .error (.unresolved ⟨r.rendered parts s, r.failures parts s⟩) := by
  have hFailures := Progress.failures_expandParts (Progress.start b s) r parts
  have hText := Progress.text_expandParts (Progress.start b s) r parts
  rw [expandInto_of_scan h]
  simp only [Progress.finish, hFailures, hText]
  simp [Progress.start]

/-- What is reported does not depend on what is there. -/
theorem result_expandInto_eq (b : Buffer) (source : Text) (r : Resolver σ) (s : σ) :
    (expandInto b source r s).result = (expandInto .empty source r s).result := by
  cases hError : (scan source).2 with
  | none =>
    have hScan : scan source = ((scan source).1, none) := Prod.ext rfl hError
    rw [result_expandInto hScan, result_expandInto hScan]
  | some error => rw [expandInto_of_error hError, expandInto_of_error hError]

end LogMarkup
