import LogMarkup.Text
import LogMarkup.Text.Classes
import LogMarkup.Text.Classes.Unseen

/-!
# Quoted text

Diagnostics show a text between quotes on one line. The quote itself and the backslash follow a
backslash, the usual control characters have short escapes, and every other character that
would not be seen on its own is written by its code. All else stands for itself.
-/

namespace LogMarkup

open CharClass

/-- The written form of a character between the given quotes. -/
def quotedChar (quote c : Char) : Text :=
  if c = quote ∨ c = '\\' then ['\\', c]
  else if c = '\x00' then "\\0".toList
  else if c = '\t' then "\\t".toList
  else if c = '\n' then "\\n".toList
  else if c = '\r' then "\\r".toList
  else if isIn unseen c then
    "\\u\x7b".toList ++ Nat.toDigits 16 c.toNat ++ "\x7d".toList
  else [c]

/-- A text between double quotes. -/
def quoted (t : Text) : Text := ['"'] ++ t.flatMap (quotedChar '"') ++ ['"']

/-- A character between single quotes. -/
def quotedCharacter (c : Char) : Text := ['\''] ++ quotedChar '\'' c ++ ['\'']

end LogMarkup
