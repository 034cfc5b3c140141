/-!
# Binary numbers

A floating point number is a sign, a whole significand and a power of two, or one of the
exceptional values. The two widths differ only in how many bits the parts have.
-/

namespace LogMarkup

/-- The widths of the parts of a floating point number. -/
structure BinaryLayout where
  /-- The bits of the significand that are stored. -/
  fractionBits : Nat
  exponentBits : Nat

namespace BinaryLayout

/-- The layout of numbers of 32 bits. -/
def single : BinaryLayout := ⟨23, 8⟩

/-- The layout of numbers of 64 bits. -/
def double : BinaryLayout := ⟨52, 11⟩

/-- The significands from here on have all their bits. -/
def implicitBit (l : BinaryLayout) : Nat := Nat.pow 2 l.fractionBits

/-- The largest exponent field, which marks the exceptional values. -/
def exceptionalField (l : BinaryLayout) : Nat := Nat.pow 2 l.exponentBits - 1

/-- The power of two of the smallest numbers. -/
def leastExponent (l : BinaryLayout) : Int :=
  2 - Nat.pow 2 (l.exponentBits - 1) - l.fractionBits

end BinaryLayout

inductive BinaryNumber where
  | nan
  | infinite (negative : Bool)
  /-- The number `significand * 2 ^ exponent`. The numbers below it are twice as dense if
  `lowest`, which holds of the least significand of a power of two. -/
  | finite (negative : Bool) (significand : Nat) (exponent : Int) (lowest : Bool)

/-- The number with the given bits. -/
def BinaryNumber.ofBits (l : BinaryLayout) (bits : Nat) : BinaryNumber :=
  let fraction := bits % l.implicitBit
  let field := bits / l.implicitBit % (l.exceptionalField + 1)
  let negative := bits / l.implicitBit / (l.exceptionalField + 1) = 1
  if field = l.exceptionalField then
    if fraction = 0 then .infinite negative else .nan
  else if field = 0 then .finite negative fraction l.leastExponent false
  else
    .finite negative (l.implicitBit + fraction) (l.leastExponent + (field - 1)) (fraction = 0)

def BinaryNumber.ofFloat32 (x : Float32) : BinaryNumber := .ofBits .single x.toBits.toNat

def BinaryNumber.ofFloat (x : Float) : BinaryNumber := .ofBits .double x.toBits.toNat

end LogMarkup
