import LogMarkup.Buffer
import LogMarkup.Resolver
import LogMarkup.Template

/-!
# Expanding templates to messages

Every placeholder is written as its name and value between delimiters, or as its name and the
error in place of the value; literal text is copied. An argument without a value does not stop
the expansion: the failures are collected and reported together with the whole message. A
template with an error stops it, and what was written up to the error stays.

* `expandInto`: scans and expands in one go, at the end of a buffer.
* `Template.expandInto`: the same for a template that was scanned before.
-/

namespace LogMarkup

/-- A placeholder without a value. -/
structure FailedArgument where
  /-- The byte offset of the opening delimiter in the template. -/
  position : Nat
  index : Nat
  name : Text
  error : ResolveError
  deriving DecidableEq, Repr

/-- A message in which some arguments have an error in place of their value. -/
structure UnresolvedArguments where
  message : Text
  /-- The failures in the order of the template. -/
  failures : List FailedArgument
  deriving DecidableEq, Repr

inductive ExpandError where
  | malformed (error : SyntaxError)
  | unresolved (arguments : UnresolvedArguments)
  deriving DecidableEq, Repr

/-- An expansion under way. -/
structure Progress (σ : Type) where
  buffer : Buffer
  state : σ
  failures : List FailedArgument

/-- An expansion that came to its end. -/
structure Expanded (σ : Type) where
  result : Except ExpandError Unit
  buffer : Buffer
  state : σ

variable {σ : Type}

/-! ## Parts -/

/-- The buffer after an argument. Of a failed argument nothing but the error stays. -/
def Buffer.writeArgument (b : Buffer) (name : Text) (answer : Answer) : Buffer :=
  let named := (b.push [delimiter]).push name
  let opened := (named.push [nameSeparator]).attemptAll answer.attempts
  let written := opened.writeAll answer.writing.chunks
  match answer.result with
  | .ok _ => written.push [delimiter]
  | .error error =>
    let marked := ((written.rewindTo named).push [errorMarker]).push ['(']
    ((marked.pushEscaped error.message).push [')']).push [delimiter]

namespace Progress

def start (buffer : Buffer) (state : σ) : Progress σ := ⟨buffer, state, []⟩

/-- Expands a placeholder. The resolver is asked once. -/
def expandPlaceholder (x : Progress σ) (r : Resolver σ) (p : Placeholder) : Progress σ :=
  let (answer, state) := r p.index p.name x.state
  { buffer := x.buffer.writeArgument p.name answer
    state
    failures := match answer.result with
      | .ok _ => x.failures
      | .error error => x.failures ++ [⟨p.start, p.index, p.name, error⟩] }

def expandPart (x : Progress σ) (r : Resolver σ) : Part → Progress σ
  | .literal t => { x with buffer := x.buffer.push t }
  | .placeholder p => x.expandPlaceholder r p

/-- The outcome of an expansion without a syntax error that started with the text `before`. -/
def finish (x : Progress σ) (before : Text) : Expanded σ where
  result :=
    if x.failures = [] then .ok ()
    else .error (.unresolved ⟨x.buffer.text.drop before.length, x.failures⟩)
  buffer := x.buffer
  state := x.state

end Progress

/-! ## Whole templates -/

/-- Expands the parts as the scanner gives them, up to the first error. -/
def Scanner.expandAll (s : Scanner) (r : Resolver σ) (x : Progress σ) :
    Option SyntaxError × Progress σ :=
  match _h : s.next? with
  | none => (none, x)
  | some (.error error, _) => (some error, x)
  | some (.ok part, s') => s'.expandAll r (x.expandPart r part)
termination_by s.rest.length
decreasing_by exact length_of_next? _h

/-- Scans and expands a template at the end of a buffer. -/
def expandInto (buffer : Buffer) (template : Text) (r : Resolver σ) (state : σ) : Expanded σ :=
  let before := buffer.text
  match (Scanner.start template).expandAll r (.start buffer state) with
  | (none, x) => x.finish before
  | (some error, x) => ⟨.error (.malformed error), x.buffer, x.state⟩

/-- Expands a template at the end of a buffer. -/
def Template.expandInto (t : Template) (buffer : Buffer) (r : Resolver σ) (state : σ) :
    Expanded σ :=
  let before := buffer.text
  (t.parts.foldl (fun x part => Progress.expandPart x r part) (Progress.start buffer state)).finish
    before

/-- The message, or the error if there is one. -/
def Expanded.message (x : Expanded σ) : Except ExpandError Text :=
  x.result.map fun _ => x.buffer.text

/-- Expands a template to a new message. -/
def expand (template : Text) (r : Resolver σ) (state : σ) : Except ExpandError Text × σ :=
  let x := expandInto .empty template r state
  (x.message, x.state)

def Template.expand (t : Template) (r : Resolver σ) (state : σ) : Except ExpandError Text × σ :=
  let x := t.expandInto .empty r state
  (x.message, x.state)

end LogMarkup
