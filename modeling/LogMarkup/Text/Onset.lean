import LogMarkup.Text
import LogMarkup.Text.Classes
import LogMarkup.Text.Classes.Columns
import LogMarkup.Text.Classes.Emoji
import LogMarkup.Text.Classes.Letters

/-!
# How texts begin

Some characters are drawn together with those on their right: the parts of an emoji, the letters
of a ligature, a carriage return and its line feed. What a character has to know about the text
on its right is how that text begins, its `Onset`.

* `Onset.ofChar`: the columns and the onset of a character that joins nothing.
* `Onset.join`: the columns that a character adds to a text that it joins, and the onset of both.
  The columns are negative if together the two take less than the text alone.
-/

namespace LogMarkup

open CharClass

/-- The character that joins two others into one sign. -/
def joinerChar : Char := '\u200D'

/-- The mark that puts a key around the character before it. -/
def keycapChar : Char := '\u20E3'

/-- The character that ends a sequence of tags. -/
def tagEndChar : Char := Char.ofNat 0xE007F

/-- The black flag, which the tags of a region or a country follow. -/
def flagChar : Char := Char.ofNat 0x1F3F4

/-- Letters that a character before them may merge with. Marks may stand between the two. -/
inductive Ligature where
  | lamed
  | ya
  | yaAfterVowel
  | khmer
  | tifinagh
  | tifinaghAfterJoiner
  | lisuTone
  | orkhonI
  deriving DecidableEq, Repr

inductive Onset where
  | plain
  | lineFeed
  | emoji
  | skinTone
  /-- A letter of a region alone. -/
  | regional
  /-- Letters of regions, from the second on. -/
  | regionals
  /-- A joiner and an emoji. -/
  | joiner
  /-- A keycap mark, a joiner and an emoji. -/
  | keycap
  /-- One letter of a region, a joiner and an emoji. -/
  | oneRegional
  /-- Two letters of a region, or four and so on, a joiner and an emoji. -/
  | evenRegionals
  /-- Three letters of a region, or five and so on, a joiner and an emoji. -/
  | oddRegionals
  /-- Tags, a joiner and an emoji: so many digits before so many letters before the end. -/
  | tags (digits letters : Nat)
  | alef
  /-- A letter, and whether a joiner stands before it. -/
  | ligature (letter : Ligature) (joined : Bool)
  deriving DecidableEq, Repr

namespace Onset

/-- Does the text begin with a joiner that an emoji follows? -/
def isJoiner : Onset → Bool
  | joiner | keycap => true
  | _ => false

/-- Does the text begin with a letter that other letters may merge with? -/
def isLetter : Onset → Bool
  | alef | ligature _ _ => true
  | _ => false

/-- The columns and the onset of a character that joins nothing. -/
def ofChar (c : Char) : Int × Onset :=
  if c = '\u05DC' then (1, ligature .lamed false)
  else if isIn CharClass.alef c then (1, alef)
  else if isIn CharClass.khmer c then (1, ligature .khmer true)
  else if c = '\u17D8' then (3, plain)
  else if c = '\u17A4' then (2, plain)
  else if c = '\u1A10' then (1, ligature .ya false)
  else if isIn CharClass.tifinagh c then (1, ligature .tifinagh false)
  else if isIn lisuSecondTone c then (1, ligature .lisuTone false)
  else if c = Char.ofNat 0x10C03 then (1, ligature .orkhonI false)
  else if isIn CharClass.regional c then (1, regional)
  else if isIn CharClass.skinTone c then (2, skinTone)
  else if isIn pictured c then (2, emoji)
  else if isIn columnless c then (0, plain)
  else if isIn wide c then (2, plain)
  else (1, plain)

end Onset

/-- The columns that a character adds to a letter that it merges with, and the onset of both. -/
def Ligature.join (letter : Ligature) (joined : Bool) (c : Char) : Option (Int × Onset) :=
  match letter, joined with
  | .lamed, true => if c = '\u05D0' then some (0, .plain) else none
  | .ya, true => if c = '\u1A17' then some (0, .ligature .yaAfterVowel true) else none
  | .yaAfterVowel, _ => if c = '\u1A15' then some (0, .plain) else none
  | .khmer, _ => if c = '\u17D2' then some (-1, .plain) else none
  | .tifinagh, _ =>
    if c = '\u2D7F' then some (1, .ligature .tifinaghAfterJoiner true)
    else if joined && isIn CharClass.tifinagh c then some (0, .plain)
    else none
  | .tifinaghAfterJoiner, _ => if isIn CharClass.tifinagh c then some (-1, .plain) else none
  | .lisuTone, _ => if isIn lisuFirstTone c then some (0, .plain) else none
  | .orkhonI, true => if c = Char.ofNat 0x10C32 then some (0, .plain) else none
  | _, false => none

namespace Onset

/-- What a tag before other tags adds. A sequence has three to six letters, or three digits after
at most four letters, and a flag stands before it. -/
def joinTags (digits letters : Nat) (c : Char) : Option (Int × Onset) :=
  if isIn tagLetter c && digits = 0 && letters < 6 then some (0, tags 0 (letters + 1))
  else if isIn tagDigit c && digits < 3 && letters ≤ 4 then some (0, tags (digits + 1) letters)
  else if c = flagChar && (digits = 3 || digits = 0 && 3 ≤ letters) then some (0, emoji)
  else none

/-- The columns that a character adds to a text that it joins, and the onset of both. -/
def join (right : Onset) (c : Char) : Option (Int × Onset) :=
  match right with
  | plain | lineFeed | keycap => none
  | emoji => if c = joinerChar then some (0, joiner) else none
  | skinTone =>
    if isIn coloured c then some (0, emoji)
    else if c = joinerChar then some (0, joiner)
    else none
  | regional => if isIn CharClass.regional c then some (1, regionals) else none
  | regionals =>
    if isIn CharClass.regional c then some (1, regionals)
    else if c = joinerChar then some (0, joiner)
    else none
  | joiner =>
    if c = keycapChar then some (0, keycap)
    else if isIn CharClass.regional c then some (1, oneRegional)
    else if isIn CharClass.skinTone c then some (0, skinTone)
    else if c = tagEndChar then some (0, tags 0 0)
    else if (ofChar c).2 = emoji then some (0, emoji)
    else none
  | oneRegional => if isIn CharClass.regional c then some (-1, evenRegionals) else none
  | evenRegionals =>
    if isIn CharClass.regional c then some (3, oddRegionals)
    else if c = joinerChar then some (0, joiner)
    else none
  | oddRegionals =>
    if isIn CharClass.regional c then some (-1, evenRegionals)
    else if c = joinerChar then some (0, joiner)
    else none
  | tags digits letters => joinTags digits letters c
  | alef =>
    if isIn lam c then some (0, plain)
    else if isIn columnless c && !isIn dividing c then some (0, alef)
    else none
  | ligature letter joined =>
    if c = joinerChar then some (0, ligature letter true)
    else if isIn unobtrusive c then some (0, right)
    else letter.join joined c

end Onset

end LogMarkup
