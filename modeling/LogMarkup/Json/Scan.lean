import LogMarkup.Json.Leading

/-!
# Whole JSON texts

Reading a whole text finds faults also inside arrays and objects, and behind the value. What matters
for them are the strings, the numbers and how deep the brackets are, so a scan from left to right
without a view of the structure meets the same first fault. Inside arrays and objects commas, colons
and the kinds of brackets are not looked at.
-/

namespace LogMarkup.Json

/-- Arrays and objects one in another have to be fewer than this. -/
def depthLimit : Nat := 128

/-- The text behind the bracket that closes the last of so many open arrays and objects. -/
def readBrackets (depth : Nat) (t : Text) : Except Stop Text :=
  match t with
  | [] => .error ⟨.malformed, []⟩
  | c :: rest =>
    if c = '"' then
      match _ : readString rest with
      | .error stop => .error stop
      | .ok (_, rest) => readBrackets depth rest
    else if c = '[' ∨ c = '\x7b' then
      if depth + 1 = depthLimit then .error ⟨.tooDeep, rest⟩ else readBrackets (depth + 1) rest
    else if c = ']' ∨ c = '\x7d' then
      if depth ≤ 1 then .ok rest else readBrackets (depth - 1) rest
    else if _ : isDecimalDigit c then
      match _ : readNumber false (c :: rest) with
      | .error stop => .error stop
      | .ok (_, rest) => readBrackets depth rest
    else readBrackets depth rest
termination_by t.length
decreasing_by
  · have := length_lt_of_readString ‹_›
    simp only [List.length_cons]
    omega
  · simp
  · simp
  · exact length_lt_of_readNumber ‹_› ‹_›
  · simp

/-- The value of a whole text. -/
def readWhole (t : Text) : Except Stop Leading := do
  let (leading, rest) ← readLeading t
  let rest ← match leading with
    | .array | .object => readBrackets 0 rest
    | _ => pure rest
  readEnd rest
  return leading

end LogMarkup.Json
