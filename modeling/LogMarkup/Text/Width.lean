import LogMarkup.Text
import LogMarkup.Text.Classes
import LogMarkup.Text.Classes.Emoji
import LogMarkup.Text.Onset

/-!
# Display width

The number of columns that a text takes in a terminal with letters of fixed width. A text is
measured from its end, since what a character adds depends on how the text on its right begins
and on whether a selector there asks for its picture or for its letter form.

* `Surroundings.add`: the columns of one more character on the left.
* `displayWidth`: the columns of a text.
-/

namespace LogMarkup

open CharClass

/-- Asks for the picture of the character before it. -/
def pictureSelector : Char := '\uFE0F'

/-- Asks for the letter form of the character before it. -/
def letterSelector : Char := '\uFE0E'

/-- What the character on the left of a text has to know about it. -/
structure Surroundings where
  onset : Onset := .plain
  wantsPicture : Bool := false
  wantsLetter : Bool := false
  deriving DecidableEq, Repr

namespace Surroundings

/-- The selector for the picture at the beginning of a text has no effect. -/
def withoutPicture (right : Surroundings) : Surroundings :=
  if right.onset.isLetter then { right with wantsPicture := false } else {}

/-- A text with a selector for the picture before it. -/
def withPicture (right : Surroundings) : Surroundings :=
  if right.onset.isLetter || right.onset.isJoiner then { right with wantsPicture := true }
  else { wantsPicture := true }

/-- A text with a selector for the letter form before it. -/
def withLetter (right : Surroundings) : Surroundings :=
  if right.onset.isLetter then { right with wantsLetter := true } else { wantsLetter := true }

/-- The columns that a character adds to a text without selectors, which it joins if it can, and
the onset of both. -/
def addJoined (right : Onset) (c : Char) : Int × Onset :=
  (right.join c).getD (Onset.ofChar c)

/-- Has the character a picture that takes two columns and a letter form that takes one? The
letter forms of enclosed ideographs take two. -/
def hasNarrowForm (c : Char) : Bool :=
  isIn restyled c && isIn pictured c && !(0x1F200 ≤ c.toNat && c.toNat ≤ 0x1F2FF)

/-- The columns of a character that is not one of the first 160, before a text that does not begin
with a selector for the picture. -/
def addUnpictured (right : Surroundings) (c : Char) : Int × Surroundings :=
  if c = pictureSelector then (0, right.withPicture)
  else if c = letterSelector then (0, right.withLetter)
  else if right.wantsLetter && hasNarrowForm c then (1, {})
  else
    let (columns, onset) := addJoined right.onset c
    (columns, { onset })

/-- The columns that a character adds to a text on its right, and what the character on the left
of both has to know. -/
def add (right : Surroundings) (c : Char) : Int × Surroundings :=
  if right.wantsPicture && isIn restyled c then
    (if right.onset.isJoiner then 0 else 2, { onset := .emoji })
  else
    let right := if right.wantsPicture then right.withoutPicture else right
    if c = '\n' then (1, { onset := .lineFeed })
    else if c = '\r' && right.onset = .lineFeed then (0, {})
    else if c.toNat ≤ 0xA0 then (1, {})
    else right.addUnpictured c

end Surroundings

/-- The columns of a text, and what the character on its left has to know. -/
def measure (t : Text) : Int × Surroundings :=
  t.foldr (fun c (width, right) =>
    let (columns, surroundings) := right.add c
    (width + columns, surroundings)) (0, {})

/-- The number of columns that a text takes. -/
def displayWidth (t : Text) : Nat := (measure t).1.toNat

end LogMarkup
