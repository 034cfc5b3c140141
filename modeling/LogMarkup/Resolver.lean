import LogMarkup.Value

/-!
# Resolvers

A resolver writes the value of an argument, given its index and name, or says why there is none.
What it writes before an error is for the caller to discard. Resolvers may keep a state from one
argument to the next.

* `Resolver.answering`: resolvers without state.
* `Resolver.constant`, `Resolver.positional`, `Resolver.noArguments`.
* `Resolver.orElse`: a second resolver for the arguments that the first does not have. Only an
  argument reported as missing is passed on; any other answer stands.
-/

namespace LogMarkup

/-- Why an argument has no value. -/
inductive ResolveError where
  | missing (index : Nat) (name : Text)
  /-- Writing the value failed. -/
  | format
  | custom (message : Text)
  deriving DecidableEq, Repr

namespace ResolveError

def message : ResolveError → Text
  | .missing index name =>
    "missing argument ".toList ++ decimal index ++ " '".toList ++ name ++ "'".toList
  | .format => "an error occurred when formatting an argument".toList
  | .custom message => message

def isMissing : ResolveError → Bool
  | .missing .. => true
  | _ => false

end ResolveError

/-- What a resolver wrote for an argument, and whether it stands. -/
structure Answer where
  /-- The chunks of each attempt that was taken back before. They leave no text, but the buffer
  made room for them. -/
  attempts : List (List Chunk)
  writing : Writing ResolveError

namespace Answer

/-- An answer at the first attempt. -/
def direct (writing : Writing ResolveError) : Answer := ⟨[], writing⟩

/-- An answer after other attempts. -/
def after (attempts : List (List Chunk)) (answer : Answer) : Answer :=
  { answer with attempts := attempts ++ answer.attempts }

def result (answer : Answer) : Except ResolveError Unit := answer.writing.result

/-- The text that was written and not taken back. -/
def text (answer : Answer) : Text := answer.writing.text

/-- Nothing but an error. -/
def fail (error : ResolveError) : Answer := .direct (.fail error)

/-- A value as an answer. -/
def ofValue (v : Value) : Answer := .direct (v.writing.mapError fun _ => .format)

/-- The answer with a value that was found, or that the argument is missing. -/
def ofFound (index : Nat) (name : Text) : Option Value → Answer
  | some v => .ofValue v
  | none => .fail (.missing index name)

end Answer

/-- Looks up the argument with an index and a name in a state. -/
abbrev Resolver (σ : Type) := Nat → Text → σ → Answer × σ

namespace Resolver

variable {σ : Type}

/-- A resolver that keeps no state. -/
def answering (f : Nat → Text → Answer) : Resolver σ := fun index name s => (f index name, s)

/-- The same value for every argument. -/
def constant (v : Value) : Resolver σ := answering fun _ _ => .ofValue v

/-- The arguments of a list, by index. -/
def positional (values : List Value) : Resolver σ :=
  answering fun index name => .ofFound index name values[index]?

/-- No arguments at all. -/
def noArguments : Resolver σ := answering fun index name => .fail (.missing index name)

/-- Asks `second` for the arguments that `first` reports as missing. -/
def orElse (first second : Resolver σ) : Resolver σ := fun index name s =>
  match first index name s with
  | (⟨attempts, ⟨chunks, .error (.missing ..)⟩⟩, s') =>
    let (answer, s'') := second index name s'
    (answer.after (attempts ++ [chunks]), s'')
  | answered => answered

/-- A value for the arguments that a resolver does not have. -/
def withDefault (r : Resolver σ) (v : Value) : Resolver σ := r.orElse (constant v)

end Resolver

end LogMarkup
