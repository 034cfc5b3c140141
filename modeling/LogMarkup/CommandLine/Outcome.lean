import LogMarkup.Text

/-!
# Outcomes

What a part of the program prints and logs, and its result or the failure that ended it. What
was printed before a failure stays printed. Printing and logging are taken to succeed: a failure
comes from what is read, and none stands for an output that is closed or full.
-/

namespace LogMarkup.CommandLine

inductive Level where
  | debug
  | warn
  deriving DecidableEq, Repr

structure LogEntry where
  level : Level
  text : Text
  deriving DecidableEq, Repr

/-- What could not be done, and why. -/
structure Failure where
  context : Text
  cause : Text
  deriving DecidableEq, Repr

/-- The report about a failure. -/
def Failure.report (f : Failure) : Text :=
  "Error: ".toList ++ f.context ++ "\n\nCaused by:\n    ".toList ++ f.cause ++ "\n".toList

structure Outcome (α : Type) where
  result : Except Failure α
  printed : Text
  log : List LogEntry

namespace Outcome

variable {α β : Type}

def done (a : α) : Outcome α := ⟨.ok a, [], []⟩

def fail (f : Failure) : Outcome α := ⟨.error f, [], []⟩

def print (t : Text) : Outcome Unit := ⟨.ok (), t, []⟩

def note (level : Level) (t : Text) : Outcome Unit := ⟨.ok (), [], [⟨level, t⟩]⟩

def bind (x : Outcome α) (f : α → Outcome β) : Outcome β :=
  match x.result with
  | .error failure => ⟨.error failure, x.printed, x.log⟩
  | .ok a =>
    let y := f a
    ⟨y.result, x.printed ++ y.printed, x.log ++ y.log⟩

instance : Monad Outcome where
  pure := done
  bind := bind

end Outcome

end LogMarkup.CommandLine
