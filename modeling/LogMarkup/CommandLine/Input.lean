import LogMarkup.Text

/-!
# Lines of input

Input is bytes, read line by line. A line ends with a line feed, which may follow a carriage
return; the last line may end without either. A line that is not UTF-8 cannot be read, and
nothing after it is.
-/

namespace LogMarkup.CommandLine

/-- The bytes of each line, and whether a line feed ended it. -/
def rawLines : List UInt8 → List (List UInt8 × Bool)
  | [] => []
  | b :: rest =>
    if b = 10 then ([], true) :: rawLines rest
    else match rawLines rest with
      | [] => [([b], false)]
      | (line, ended) :: lines => ((b :: line), ended) :: lines

/-- The bytes of a line without what ends it. -/
def trimEnd : List UInt8 × Bool → List UInt8
  | (line, true) => if line.getLast? = some 13 then line.dropLast else line
  | (line, false) => line

/-- The text of a line, if it is one. -/
def decodeLine (line : List UInt8) : Option Text :=
  (String.fromUTF8? ⟨line.toArray⟩).map String.toList

/-- The lines of an input up to the first that cannot be read. -/
structure Lines where
  readable : List Text
  /-- Is there a line after these that cannot be read? -/
  broken : Bool
  deriving DecidableEq, Repr

def Lines.ofRaw : List (List UInt8 × Bool) → Lines
  | [] => ⟨[], false⟩
  | line :: rest =>
    match decodeLine (trimEnd line) with
    | none => ⟨[], true⟩
    | some t =>
      let lines := ofRaw rest
      { lines with readable := t :: lines.readable }

def Lines.ofBytes (input : ByteArray) : Lines := .ofRaw (rawLines input.toList)

end LogMarkup.CommandLine
