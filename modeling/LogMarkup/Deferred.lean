import LogMarkup.Expansion.Report
import LogMarkup.Message.Grouped

/-!
# Messages expanded later

A template together with the resolver of its arguments, to be expanded when the message is
needed. Showing it never fails: arguments without value show their error, and a template with an
error shows the report about it.

A message may also serve as the description of an error. Such an error is expanded at once and
keeps what went wrong with the expansion.
-/

namespace LogMarkup

structure Deferred (σ : Type) where
  template : Text
  resolver : Resolver σ

/-- An error described by a message. -/
structure MessageError where
  /-- The message, up to the place of an error in the template. -/
  message : Text
  expandError : Option ExpandError
  deriving DecidableEq, Repr

namespace Deferred

variable {σ : Type}

def expandInto (m : Deferred σ) (buffer : Buffer) (state : σ) : Expanded σ :=
  LogMarkup.expandInto buffer m.template m.resolver state

def expand (m : Deferred σ) (state : σ) : Except ExpandError Text × σ :=
  LogMarkup.expand m.template m.resolver state

/-- The text of the message. -/
def display (m : Deferred σ) (state : σ) : Text × σ :=
  let expanded := m.expandInto .empty state
  match expanded.result with
  | .error (.malformed error) => (error.message, expanded.state)
  | _ => (expanded.buffer.text, expanded.state)

def toError (m : Deferred σ) (state : σ) : MessageError × σ :=
  let expanded := m.expandInto .empty state
  let error := match expanded.result with
    | .ok _ => none
    | .error error => some error
  (⟨expanded.buffer.text, error⟩, expanded.state)

end Deferred

namespace MessageError

def display (e : MessageError) : Text :=
  match e.expandError with
  | some (.malformed error) =>
    "appending ".toList ++ inApostrophes e.message ++ ": ".toList ++ error.message
  | _ => e.message

/-- The description of the error of the expansion, if there was one. -/
def cause (e : MessageError) : Option Text := e.expandError.map ExpandError.message

/-- The arguments of the message. -/
def arguments (e : MessageError) : Except (ReadError Empty) ArgGroups :=
  (readGroups e.message none).result

end MessageError

end LogMarkup
