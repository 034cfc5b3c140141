import LogMarkup.Expansion.Report
import LogMarkup.Json
import LogMarkup.Json.DecodeError
import LogMarkup.Json.Leading
import LogMarkup.Json.Scan

/-!
# Templates in JSON

A template is a JSON string with its source. Decoding refuses other values, and strings that are
no template. A template that is to look at the text it is decoded from can only do so if the
string is written without escapes.

* `Template.encode`, `Template.decodeText`, `Template.decodeValue`.
-/

namespace LogMarkup

open Json

/-- The source as a JSON string. -/
def Template.encode (t : Template) : Text := stringLiteral t.source

/-- What a decoder expects, as errors name it. -/
def Template.Ownership.expected : Template.Ownership → Text
  | .borrowed => "a borrowed template string".toList
  | .owned => "a template string".toList

/-- The template of a decoded string. -/
def Template.ofDecoded (source : Text) : Except DecodeError Template :=
  (Template.ofText source).mapError fun error => .content error.message

/-- The template of the leading value of a JSON text. `verbatim` says whether the decoder can
only take strings without escapes. -/
def Template.ofLeading (ownership : Template.Ownership) (verbatim : Bool) :
    Leading → Except DecodeError Template
  | .text s => if verbatim && !s.verbatim then mismatch (.text s.text) else ofDecoded s.text
  | .null => mismatch .null
  | .bool b => mismatch (.bool b)
  | .number (.integer i) => mismatch (.integer i)
  | .number (.float x) => mismatch (.float x)
  | .array => mismatch .sequence
  | .object => mismatch .map
where
  mismatch (found : Found) : Except DecodeError Template :=
    .error (.invalidType found ownership.expected)

/-- Decodes a JSON text. An error tells how far the text was read. What stands behind the value is
only looked at when there is a template. -/
def Template.decodeText (ownership : Template.Ownership) (json : Text) : Except Text Template := do
  let (leading, rest) ← (readLeading json).mapError (·.message json)
  let t ← (ofLeading ownership (ownership = .borrowed) leading).mapError fun error =>
    (Place.after (readPart json rest)).mark error.message
  (readEnd rest).mapError (·.message json)
  return t

/-- Decodes a JSON text by way of its value, in which strings are without escapes. Only an error
of the text has a place in it. -/
def Template.decodeValue (ownership : Template.Ownership) (json : Text) : Except Text Template := do
  let leading ← (readWhole json).mapError (·.message json)
  (ofLeading ownership false leading).mapError DecodeError.message

end LogMarkup
