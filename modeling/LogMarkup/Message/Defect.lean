import LogMarkup.Text

/-!
# Defects of messages

What keeps a text from being a message, and the byte offset of the place. A text is read from
the left, so there is at most one defect, the first.
-/

namespace LogMarkup

inductive Defect.Kind where
  /-- The text ends with a delimiter that opens an argument. -/
  | emptyArgument
  /-- No separator follows the name; the text up to the next delimiter. -/
  | unterminatedName (text : Text)
  /-- A separator right after the opening delimiter. -/
  | emptyName
  /-- The text ends with the error marker. -/
  | missingErrorMarker (name : Text)
  /-- The error marker is followed by another character than an opening parenthesis. -/
  | invalidErrorStart (name : Text) (character : Char)
  /-- The error ends with another character than a closing parenthesis. -/
  | invalidErrorEnd (name : Text) (character : Char)
  /-- No delimiter closes the argument. -/
  | unterminatedArgument (name : Text)
  deriving DecidableEq, Repr

structure Defect where
  position : Nat
  kind : Defect.Kind
  deriving DecidableEq, Repr

/-- A text between apostrophes. -/
def inApostrophes (t : Text) : Text := ['\''] ++ t ++ ['\'']

def Defect.Kind.message : Defect.Kind → Text
  | .emptyArgument => "empty arg".toList
  | .unterminatedName text => "unterminated arg name ".toList ++ inApostrophes text
  | .emptyName => "empty arg name".toList
  | .missingErrorMarker name => "no error marker for arg ".toList ++ inApostrophes name
  | .invalidErrorStart _ character =>
    "invalid error start marker ".toList ++ inApostrophes [character]
  | .invalidErrorEnd _ character =>
    "invalid error end marker ".toList ++ inApostrophes [character]
  | .unterminatedArgument name => "unterminated arg ".toList ++ inApostrophes name

end LogMarkup
