import LogMarkup.Text

/-!
# Errors in templates

What is wrong with a template, and where. The error keeps the whole template, so that it can
show the place.
-/

namespace LogMarkup

inductive SyntaxError.Kind where
  /-- An opening delimiter without a closing one. The position is just after it. -/
  | unterminatedArgument
  /-- A name separator right after an opening delimiter, and no name. -/
  | emptyName
  /-- An error marker in a name. -/
  | nameContainsSeparator
  /-- A name separator and no index after it. -/
  | emptyIndex
  /-- An explicit index with a character that is no decimal digit. -/
  | notADigit
  /-- An explicit index that is larger than any index. -/
  | indexOutOfRange
  deriving DecidableEq, Repr

structure SyntaxError where
  template : Text
  /-- The byte offset of the error in the template. -/
  position : Nat
  kind : SyntaxError.Kind
  deriving DecidableEq, Repr

def SyntaxError.Kind.description : SyntaxError.Kind → Text
  | .unterminatedArgument => "unterminated argument".toList
  | .emptyName => "empty argument name".toList
  | .nameContainsSeparator => "name contains separator".toList
  | .emptyIndex => "empty explicit index".toList
  | .notADigit => "not a digit in explicit arg index".toList
  | .indexOutOfRange => "explicit arg index out of range".toList

end LogMarkup
