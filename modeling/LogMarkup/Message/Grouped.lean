import LogMarkup.Message
import LogMarkup.TextMap

/-!
# The arguments of a message by name

Three ways to collect the arguments of a message: all values of each name in the order of the
names, the same in the order in which the names first appear, and a single value for each name.
Only the last can refuse an argument, when its name was there before.
-/

namespace LogMarkup

/-- What an argument carries. -/
inductive ArgValue where
  | value (text : Text)
  | error (text : Text)
  deriving DecidableEq, Repr

namespace ArgValue

def ofArgument (a : Argument) : ArgValue := if a.isError then .error a.text else .value a.text

def text : ArgValue → Text
  | .value t => t
  | .error t => t

def isError : ArgValue → Bool
  | .value _ => false
  | .error _ => true

end ArgValue

/-- All values of each name, in the order of the message. -/
abbrev ArgGroups := TextMap (List ArgValue)

/-- A collection of arguments, and the template that was put together beside it. -/
structure Collected (ε α : Type) where
  result : Except (ReadError ε) α
  template : Option Text

/-- Reads a message with a receiver that collects the arguments in its state. -/
def collect {ε α : Type} (message : Text) (template : Option Text) (receive : Receiver ε α)
    (none : α) : Collected ε α :=
  let read := readMessage message template receive none
  { result := read.result.map fun _ => read.state
    template := read.template }

/-! ## All values -/

def ArgGroups.add (a : Argument) (groups : ArgGroups) : ArgGroups :=
  groups.alter a.name fun values => values.getD [] ++ [.ofArgument a]

/-- All values of each name, by the order of the names. -/
def readGroups (message : Text) (template : Option Text) : Collected Empty ArgGroups :=
  collect message template (fun a groups => (.ok (), groups.add a)) .empty

/-- Adds an argument to the values of its name, or as a new name at the end. -/
def addByAppearance (a : Argument) : List (Text × List ArgValue) → List (Text × List ArgValue)
  | [] => [(a.name, [.ofArgument a])]
  | (name, values) :: rest =>
    if name = a.name then (name, values ++ [.ofArgument a]) :: rest
    else (name, values) :: addByAppearance a rest

/-- All values of each name, by the first appearance of the names. -/
def readByAppearance (message : Text) (template : Option Text) :
    Collected Empty (List (Text × List ArgValue)) :=
  collect message template (fun a groups => (.ok (), addByAppearance a groups)) []

/-! ## Single values -/

/-- A name was there before. -/
structure DuplicateArgument where
  name : Text
  deriving DecidableEq, Repr

def DuplicateArgument.message (d : DuplicateArgument) : Text :=
  "duplicate argument ".toList ++ inApostrophes d.name

/-- The value of each name, by the order of the names. A second argument of a name is refused. -/
def readUnique (message : Text) (template : Option Text) :
    Collected DuplicateArgument (TextMap ArgValue) :=
  collect message template
    (fun a values =>
      if values.contains a.name then (.error ⟨a.name⟩, values)
      else (.ok (), values.insert a.name (.ofArgument a)))
    .empty

end LogMarkup
