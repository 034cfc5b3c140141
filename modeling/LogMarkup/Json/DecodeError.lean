import LogMarkup.Decimal.Notation
import LogMarkup.Text.Quoted

/-!
# Errors of decoding JSON

A value of another kind than was expected, a missing field, or an error of the decoded content
itself. Where such an error was found in a text is said by `Place.mark`.
-/

namespace LogMarkup.Json

/-- What was found instead of the expected kind. -/
inductive Found where
  | null
  | bool (b : Bool)
  | integer (i : Int)
  | float (x : Float)
  | text (t : Text)
  | sequence
  | map

inductive DecodeError where
  | invalidType (found : Found) (expected : Text)
  | missingField (name : Text)
  | content (message : Text)

/-- A text between grave accents. -/
def inAccents (t : Text) : Text := "`".toList ++ t ++ "`".toList

/-- The notation of floating point numbers: powers of ten with their sign below `1e-5` and from
`1e+16` on. -/
def floatNotation : FloatNotation where
  tie := .even
  zero := ["0.0".toList]
  positive d := if d.exponent < -4 ∨ 16 < d.exponent then d.scientific ['+'] else d.pointed

def Found.description : Found → Text
  | .null => "null".toList
  | .bool true => "boolean ".toList ++ inAccents "true".toList
  | .bool false => "boolean ".toList ++ inAccents "false".toList
  | .integer i => "integer ".toList ++ inAccents (signedDecimal i)
  | .float x => "floating point ".toList ++ inAccents (floatNotation.parts (.ofFloat x)).flatten
  | .text t => "string ".toList ++ quoted t
  | .sequence => "sequence".toList
  | .map => "map".toList

def DecodeError.message : DecodeError → Text
  | .invalidType found expected =>
    "invalid type: ".toList ++ found.description ++ ", expected ".toList ++ expected
  | .missingField name => "missing field ".toList ++ inAccents name
  | .content message => message

end LogMarkup.Json
