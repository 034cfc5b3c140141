import LogMarkup.Decimal.Binary
import LogMarkup.Decimal.Shortest

/-!
# Written forms of floating point numbers

A number is written in parts, from left to right: the sign, the digits before the point, the
point, the digits after it, and runs of zeros that fill up to the point. Messages show plain
notation; diagnostics keep a digit after the point and turn to powers of ten for numbers far
from one. Each notation also has its rule for ties between two shortest decimals.
-/

namespace LogMarkup

/-- Zeros are written in runs of at most this length. -/
def zeroRun : Nat := 64

/-- A number of zeros, in runs. -/
def zeros (n : Nat) : List Text :=
  if n = 0 then []
  else List.replicate zeroRun '0' |>.take n |> (· :: zeros (n - zeroRun))
termination_by n
decreasing_by simp only [zeroRun]; omega

namespace ShortDecimal

/-- The number with all its digits and no exponent. -/
def plain (d : ShortDecimal) : List Text :=
  if d.exponent ≤ 0 then ["0.".toList] ++ zeros (-d.exponent).toNat ++ [d.digits]
  else
    let whole := d.exponent.toNat
    if whole < d.digits.length then [d.digits.take whole, ['.'], d.digits.drop whole]
    else [d.digits] ++ zeros (whole - d.digits.length)

/-- The same, with a zero after the point where there would be no point. -/
def pointed (d : ShortDecimal) : List Text :=
  if (d.digits.length : Int) ≤ d.exponent then d.plain ++ [".0".toList] else d.plain

/-- One digit before the point, and the power of ten. `plus` stands before a power that is not
negative. -/
def scientific (d : ShortDecimal) (plus : Text) : List Text :=
  [d.digits.take 1] ++ (if d.digits.length ≤ 1 then [] else [['.'], d.digits.drop 1]) ++
    [['e'], if d.exponent < 1 then [] else plus, signedDecimal (d.exponent - 1)]

end ShortDecimal

/-- The texts of a number in some notation. -/
structure FloatNotation where
  tie : Tie
  zero : List Text
  positive : ShortDecimal → List Text

/-- The notation of values in messages. -/
def messageNotation : FloatNotation := ⟨.up, [['0']], ShortDecimal.plain⟩

/-- The notation of diagnostics: powers of ten below `1e-4` and from `1e16` on. -/
def diagnosticNotation : FloatNotation where
  tie := .up
  zero := ["0.0".toList]
  positive d := if d.exponent < -3 ∨ 16 < d.exponent then d.scientific [] else d.pointed

/-- The parts of the written form. -/
def FloatNotation.parts (style : FloatNotation) : BinaryNumber → List Text
  | .nan => ["NaN".toList]
  | .infinite negative => signPart negative ++ ["inf".toList]
  | .finite negative significand exponent lowest =>
    signPart negative ++
      if significand = 0 then style.zero
      else style.positive ((Rounding.ofBinary significand exponent lowest).shortest style.tie)
where
  signPart (negative : Bool) : List Text := if negative then [['-']] else []

end LogMarkup
