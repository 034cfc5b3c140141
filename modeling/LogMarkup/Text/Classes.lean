import LogMarkup.Text

/-!
# Classes of characters

Ranges of code points, both ends included and in rising order, for the properties of characters
that the display of texts depends on. `isIn` searches a table.
-/

namespace LogMarkup.CharClass

/-- Is the character in one of the ranges? The ranges rise, so the search stops at the first
range that ends at or after the character. -/
def isIn (ranges : List (Nat × Nat)) (c : Char) : Bool :=
  match ranges with
  | [] => false
  | (first, last) :: rest => if c.toNat ≤ last then first ≤ c.toNat else isIn rest c

end LogMarkup.CharClass
