import LogMarkup.CommandLine.Arguments
import LogMarkup.CommandLine.Input
import LogMarkup.CommandLine.Outcome
import LogMarkup.Message.Json

/-!
# Commands

Each command goes through the lines of an input. A line that is no message is passed over with a
warning, or ends the program if it is to be strict. Only whole messages count: the arguments in
front of a defect are not looked at.

* `listNames`: the names of all arguments, once each and sorted, at the end of the input.
* `filterLines`: the lines with an argument of one of the names, as they come.
* `convertLines`: each line as a JSON object.
-/

namespace LogMarkup.CommandLine

/-- The arguments of a line. -/
def argumentsOf (line : Text) : Except (ReadError Empty) (List Argument) :=
  (collect line none (fun a found => (.ok (), found ++ [a])) []).result

/-- The description of the error of a line. -/
def describe (error : ReadError Empty) : Text := error.message nofun

/-- A line of output. -/
def printLine (t : Text) : Outcome Unit := .print (t ++ ['\n'])

/-- The place of a line, as failures and warnings name it. -/
def place (source : Text) (number : Nat) : Text := source ++ [':'] ++ decimal number

/-- Passes over a line that is no message, or fails. -/
def rejectLine (strict : Bool) (source : Text) (number : Nat) (error : ReadError Empty) :
    Outcome Unit :=
  if strict then
    .fail ⟨place source number ++ ": invalid message".toList, describe error⟩
  else
    .note .warn
      (place source number ++ ": skipping invalid message: ".toList ++ describe error)

variable {α : Type}

/-- Uses lines one after another, the first of which has the given number. -/
def useLines (use : Nat → Text → α → Outcome α) (number : Nat) : List Text → α → Outcome α
  | [], a => .done a
  | line :: rest, a => do
    let a ← use number line a
    useLines use (number + 1) rest a

/-- Uses the lines of an input up to its end, or fails at a line that cannot be read. -/
def useInput (use : Nat → Text → α → Outcome α) (source : Text) (input : Lines) (a : α) :
    Outcome α := do
  let a ← useLines use 1 input.readable a
  if input.broken then
    .fail ⟨source ++ ": failed to read line ".toList ++ decimal (input.readable.length + 1),
      "stream did not contain valid UTF-8".toList⟩
  else .done a

/-- Adds the names of a line to those found so far. -/
def addNames (strict : Bool) (source : Text) (number : Nat) (line : Text) (names : TextSet) :
    Outcome TextSet :=
  match argumentsOf line with
  | .ok args => .done (args.foldl (fun names a => names.insert a.name ()) names)
  | .error error => do
    rejectLine strict source number error
    return names

def listNames (strict : Bool) (source : Text) (input : Lines) : Outcome Unit := do
  let names ← useInput (addNames strict source) source input .empty
  Outcome.note .debug
    (source ++ ": ".toList ++ decimal names.keys.length ++ " distinct argument names".toList)
  Outcome.print (names.keys.flatMap fun name =>
    source ++ ": '".toList ++ name ++ "'\n".toList)

/-- Shows a line with an argument of one of the names, and counts it. -/
def filterLine (names : List Text) (strict : Bool) (source : Text) (number : Nat) (line : Text)
    (shown : Nat) : Outcome Nat :=
  match argumentsOf line with
  | .ok args =>
    if args.any (names.contains ·.name) then do
      printLine line
      return shown + 1
    else .done shown
  | .error error => do
    rejectLine strict source number error
    return shown

def filterLines (names : List Text) (strict : Bool) (source : Text) (input : Lines) :
    Outcome Nat :=
  useInput (filterLine names strict source) source input 0

/-- Shows a line as a JSON object. -/
def convertLine (strict : Bool) (source : Text) (number : Nat) (line : Text) (_ : Unit) :
    Outcome Unit :=
  match messageObject line with
  | .ok object => printLine object.print
  | .error error => rejectLine strict source number error

def convertLines (strict : Bool) (source : Text) (input : Lines) : Outcome Unit :=
  useInput (convertLine strict source) source input ()

/-- Goes through one input. -/
def Command.run (command : Command) (strict : Bool) (source : Text) (input : Lines) :
    Outcome Unit :=
  match command with
  | .names => listNames strict source input
  | .filter wanted => do
    let shown ← filterLines wanted strict source input
    Outcome.note .debug (source ++ ": ".toList ++ decimal shown ++ " matching lines".toList)
  | .json => convertLines strict source input

end LogMarkup.CommandLine
