import LogMarkup.Json.Number
import LogMarkup.Json.StringReader

/-!
# The leading value of a JSON text

Reads the first value of a JSON text as far as is needed to tell what it is: texts and numbers
as a whole, of arrays and objects only that they begin. What was read ends where errors about the
value point to.
-/

namespace LogMarkup.Json

/-- What the first value of a text is. -/
inductive Leading where
  | null
  | bool (b : Bool)
  | number (n : Number)
  | text (s : StringContent)
  | array
  | object

def isBlank (c : Char) : Bool := c = ' ' || c = '\t' || c = '\n' || c = '\r'

/-- The leading value of a text without blanks in front, and the text after what was read. -/
def readValue : Text → Except Stop (Leading × Text)
  | '"' :: rest => (readString rest).map fun (s, rest) => (.text s, rest)
  | 'n' :: 'u' :: 'l' :: 'l' :: rest => .ok (.null, rest)
  | 't' :: 'r' :: 'u' :: 'e' :: rest => .ok (.bool true, rest)
  | 'f' :: 'a' :: 'l' :: 's' :: 'e' :: rest => .ok (.bool false, rest)
  | '[' :: rest => .ok (.array, '[' :: rest)
  | '\x7b' :: rest => .ok (.object, '\x7b' :: rest)
  | '-' :: rest => (readNumber true rest).map fun (n, rest) => (.number n, rest)
  | c :: rest =>
    if isDecimalDigit c then
      (readNumber false (c :: rest)).map fun (n, rest) => (.number n, rest)
    else .error ⟨.malformed, rest⟩
  | [] => .error ⟨.malformed, []⟩

/-- The leading value of a text, and the text after what was read. -/
def readLeading (t : Text) : Except Stop (Leading × Text) := readValue (t.dropWhile isBlank)

/-- Only blanks may stand behind a value. -/
def readEnd (t : Text) : Except Stop Unit :=
  match t.dropWhile isBlank with
  | [] => .ok ()
  | c :: rest => .error ⟨.trailing, c :: rest⟩

end LogMarkup.Json
