import LogMarkup.Text

/-!
# Decimal numerals

The digits of a number without superfluous zeros, the same filled up with zeros to a least
length, and the number that digits denote.

* `readDecimal_decimal`: the numeral of a number denotes that number.
-/

namespace LogMarkup

/-- The decimal digits of a number, `0` for zero. -/
def decimal (n : Nat) : Text := Nat.toDigits 10 n

/-- The number that a list of decimal digits denotes. -/
def readDecimal (digits : Text) : Nat := Nat.ofDigitChars 10 digits 0

theorem readDecimal_decimal (n : Nat) : readDecimal (decimal n) = n :=
  Nat.ofDigitChars_toDigits (by decide) (by decide)

/-- The zeros in front of a numeral that is to have at least `width` digits. -/
def leadingZeros (width n : Nat) : Text := List.replicate (width - (decimal n).length) '0'

/-- The decimal digits of a number, with zeros in front up to `width` digits. -/
def paddedDecimal (width n : Nat) : Text := leadingZeros width n ++ decimal n

/-- The decimal numeral of an integer, with a minus sign if it is negative. -/
def signedDecimal (i : Int) : Text := if i < 0 then '-' :: decimal i.natAbs else decimal i.natAbs

end LogMarkup
