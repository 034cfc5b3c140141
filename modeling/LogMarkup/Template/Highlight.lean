import LogMarkup.Template.SyntaxError
import LogMarkup.Text.Width

/-!
# Showing the place of an error

The line of the template with the error, and below it carets under the offending character. The
fields of an error are open to everyone, so the position may be anywhere, also past the end of
the template or inside a character.

* `SyntaxError.highlight`: `none` if the range of the error is not a part of its line, which is
  so if it starts inside a character or covers a line break.
-/

namespace LogMarkup

/-- Lines wider than this are not shown. -/
def widestLine : Nat := 60

def isLineBreak (c : Char) : Bool := c = '\n' || c = '\r'

namespace SyntaxError

/-- The byte offset that the range of the error starts at. An argument without an end is shown at
its opening delimiter. -/
def rangeStart (e : SyntaxError) : Nat :=
  let start := match e.kind with
    | .unterminatedArgument => e.position - 1
    | _ => e.position
  min start (byteLength e.template)

/-- The template before and after the start of the range. A character that the range starts
inside of is counted as after it. -/
def sides (e : SyntaxError) : Text × Text := splitAtByte e.template e.rangeStart

/-- The character that the range covers, unless it starts inside a character or at the end. -/
def covered (e : SyntaxError) : Option Char :=
  if IsBoundary e.template e.rangeStart then e.sides.2.head? else none

/-- The byte offset that the range of the error ends at. -/
def rangeEnd (e : SyntaxError) : Nat := e.rangeStart + e.covered.elim 0 Char.utf8Size

/-- The part of the line before the range. -/
def lineBefore (e : SyntaxError) : Text :=
  (e.sides.1.reverse.takeWhile (!isLineBreak ·)).reverse

/-- The part of the line from the range on. -/
def lineAfter (e : SyntaxError) : Text := e.sides.2.takeWhile (!isLineBreak ·)

/-- The line of the template that the range starts in. -/
def line (e : SyntaxError) : Text := e.lineBefore ++ e.lineAfter

/-- The columns that are underlined, at least one. `none` if the range is not in the line. -/
def underlined (e : SyntaxError) : Option Nat :=
  if IsBoundary e.template e.rangeStart then
    match e.covered with
    | none => some 1
    | some c => if isLineBreak c then none else some (max 1 (displayWidth [c]))
  else none

/-- The line and its underline, or nothing if the line is too wide. -/
def highlight (e : SyntaxError) : Option Text :=
  if displayWidth e.line > widestLine then some []
  else e.underlined.map fun carets =>
    "  ".toList ++ e.line ++ "\n  ".toList ++
      List.replicate (displayWidth e.lineBefore) ' ' ++ List.replicate carets '^' ++ ['\n']

end SyntaxError

end LogMarkup
