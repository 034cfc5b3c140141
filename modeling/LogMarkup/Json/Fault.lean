import LogMarkup.Decimal.Natural
import LogMarkup.Text

/-!
# Faults of JSON texts

What keeps a text from having a value, and the place where reading it stopped.
-/

namespace LogMarkup.Json

/-- A place in a text, as errors name it: the line counts from one, and the column is the number
of bytes in front of the place on its line. -/
structure Place where
  line : Nat
  column : Nat
  deriving DecidableEq, Repr

/-- The place at the end of a text. -/
def Place.after (t : Text) : Place :=
  ⟨t.count '\n' + 1, byteLength (t.reverse.takeWhile (· ≠ '\n'))⟩

/-- A message about a place. -/
def Place.mark (place : Place) (message : Text) : Text :=
  message ++ " at line ".toList ++ decimal place.line ++ " column ".toList ++ decimal place.column

inductive Fault where
  /-- The text does not have the form of a JSON value. -/
  | malformed
  /-- A number that no floating point number comes near. -/
  | numberOutOfRange
  /-- Arrays and objects one in another, beyond the limit. -/
  | tooDeep
  /-- A control character in a string that is not escaped. -/
  | controlCharacter
  /-- The escape of a surrogate that has no partner next to it. -/
  | unpairedSurrogate
  /-- The escape of a leading surrogate that no other escape by a code follows. -/
  | missingSurrogate
  /-- A character behind the value that is no blank. -/
  | trailing
  deriving DecidableEq, Repr

def Fault.message : Fault → Text
  | .malformed => "expected value".toList
  | .numberOutOfRange => "number out of range".toList
  | .tooDeep => "recursion limit exceeded".toList
  | .controlCharacter =>
    "control character (\\u0000-\\u001F) found while parsing a string".toList
  | .unpairedSurrogate => "lone leading surrogate in hex escape".toList
  | .missingSurrogate => "unexpected end of hex escape".toList
  | .trailing => "trailing characters".toList

/-- Is the fault noticed at the byte after the place where reading stopped? -/
def Fault.isAhead : Fault → Bool
  | .missingSurrogate | .trailing => true
  | _ => false

/-- Why reading stopped, and the text after the place where it did. -/
structure Stop where
  fault : Fault
  rest : Text
  deriving DecidableEq, Repr

/-- The text in front of `rest`, which is the end of a text. -/
def readPart (t rest : Text) : Text := t.take (t.length - rest.length)

/-- The message about a stop in a text. -/
def Stop.message (stop : Stop) (t : Text) : Text :=
  let place := Place.after (readPart t stop.rest)
  let beyond := if stop.fault.isAhead then 1 else 0
  { place with column := place.column + beyond }.mark stop.fault.message

end LogMarkup.Json
