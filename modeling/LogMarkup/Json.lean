import LogMarkup.TextMap

/-!
# JSON values and their text

The JSON values that messages are turned into, and their text without blanks. In strings the
quote, the backslash and the control characters below the space are escaped, by a letter if
there is one.
-/

namespace LogMarkup

inductive Json where
  | null
  | text (t : Text)
  | array (items : List Json)
  | object (fields : List (Text × Json))

namespace Json

/-! ## Strings -/

/-- The letter that stands for a control character after a backslash. -/
def escapeLetter? (c : Char) : Option Char :=
  if c = '\x08' then some 'b'
  else if c = '\t' then some 't'
  else if c = '\n' then some 'n'
  else if c = '\x0c' then some 'f'
  else if c = '\r' then some 'r'
  else none

/-- The escape of a control character by its code, in four hexadecimal digits. -/
def codeEscape (c : Char) : Text :=
  let digits := Nat.toDigits 16 c.toNat
  "\\u".toList ++ List.replicate (4 - digits.length) '0' ++ digits

/-- Does the character have to be escaped? -/
def needsEscape (c : Char) : Bool := c = '"' || c = '\\' || c.toNat < 0x20

def stringChar (c : Char) : Text :=
  if c = '"' ∨ c = '\\' then ['\\', c]
  else match escapeLetter? c with
    | some letter => ['\\', letter]
    | none => if needsEscape c then codeEscape c else [c]

/-- A text as a JSON string. -/
def stringLiteral (t : Text) : Text := ['"'] ++ t.flatMap stringChar ++ ['"']

/-! ## Values -/

mutual

/-- The text of a value. -/
def print : Json → Text
  | .null => "null".toList
  | .text t => stringLiteral t
  | .array items => ['['] ++ joinWith [','] (printItems items) ++ [']']
  | .object fields => ['\x7b'] ++ joinWith [','] (printFields fields) ++ ['\x7d']

def printItems : List Json → List Text
  | [] => []
  | item :: rest => item.print :: printItems rest

def printFields : List (Text × Json) → List Text
  | [] => []
  | field :: rest => printField field :: printFields rest

def printField : Text × Json → Text
  | (name, value) => stringLiteral name ++ [':'] ++ value.print

end

end Json

end LogMarkup
