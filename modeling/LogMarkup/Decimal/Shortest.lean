import LogMarkup.Decimal.Natural

/-!
# Shortest decimals

The decimal with the fewest digits among all that are closer to a binary number than to its
neighbours, and so read back as that number. Of two decimals of that length the closer one is
taken, and of two equally close ones the one that the tie rule names.

The number, the ends of its interval and the decimals are compared as fractions of whole
numbers, so no step rounds.
-/

namespace LogMarkup

/-- The positive number `0.d₁d₂… * 10 ^ exponent`, where `d₁d₂…` are the digits. -/
structure ShortDecimal where
  digits : Text
  exponent : Int

/-- The rules for two decimals that are equally close. -/
inductive Tie where
  /-- The larger one is taken. -/
  | up
  /-- The one with the even last digit is taken. -/
  | even
  deriving DecidableEq, Repr

/-- The count that is taken if the next one is equally close. -/
def Tie.choose (tie : Tie) (count : Nat) : Nat :=
  match tie with
  | .up => count + 1
  | .even => if count % 2 = 0 then count else count + 1

/-- A positive number and the ends of the interval of numbers that round to it, all three over
one denominator. -/
structure Rounding where
  low : Nat
  value : Nat
  high : Nat
  denominator : Nat
  /-- Do the ends round to the number? -/
  closed : Bool

namespace Rounding

/-- The interval of `significand * 2 ^ exponent`. The ends are half way to the neighbours; they
round to the even one of two significands. -/
def ofBinary (significand : Nat) (exponent : Int) (lowest : Bool) : Rounding :=
  let quarter := Nat.pow 2 (exponent - 2).toNat
  { low := (4 * significand - if lowest then 1 else 2) * quarter
    value := 4 * significand * quarter
    high := (4 * significand + 2) * quarter
    denominator := Nat.pow 2 (2 - exponent).toNat
    closed := significand % 2 = 0 }

/-- The power of ten of the leading digit of the number. -/
def magnitude (r : Rounding) : Int :=
  let above := (decimal r.value).length
  let below := (decimal r.denominator).length
  if r.denominator * Nat.pow 10 (above - below) ≤ r.value * Nat.pow 10 (below - above) then
    (above : Int) - below
  else (above : Int) - below - 1

/-- The number in units of `10 ^ place`, over a denominator: value and denominator. -/
def scaled (place : Int) (numerator denominator : Nat) : Nat × Nat :=
  (numerator * Nat.pow 10 (-place).toNat, denominator * Nat.pow 10 place.toNat)

/-- Does `count` times `10 ^ place` round to the number? -/
def admits (r : Rounding) (place : Int) (count : Nat) : Bool :=
  let (low, unit) := scaled place r.low r.denominator
  let (high, _) := scaled place r.high r.denominator
  if r.closed then low ≤ count * unit && count * unit ≤ high
  else low < count * unit && count * unit < high

/-- The closest multiple of `10 ^ place` that rounds to the number, if any does. -/
def closest? (tie : Tie) (r : Rounding) (place : Int) : Option Nat :=
  let (value, unit) := scaled place r.value r.denominator
  let below := value / unit
  let above := below + 1
  match r.admits place below, r.admits place above with
  | true, true =>
    if 2 * (value % unit) = unit then some (tie.choose below)
    else some (if unit < 2 * (value % unit) then above else below)
  | true, false => some below
  | false, true => some above
  | false, false => none

end Rounding

/-- The most digits that any number of 64 bits needs. -/
def mostDigits : Nat := 17

/-- The count of units of `10 ^ place` as a decimal without zeros at its end. -/
def ShortDecimal.ofCount (count : Nat) (place : Int) : ShortDecimal :=
  let digits := decimal count
  { digits := (digits.reverse.dropWhile (· = '0')).reverse
    exponent := place + digits.length }

/-- The shortest decimal that rounds to the number. -/
def Rounding.shortest (tie : Tie) (r : Rounding) : ShortDecimal :=
  let places := (List.range mostDigits).map fun n : Nat => r.magnitude - (n : Int)
  match places.findSome? fun place => (r.closest? tie place).map (·, place) with
  | some (count, place) => .ofCount count place
  | none =>
    let place := r.magnitude - mostDigits
    let (value, unit) := Rounding.scaled place r.value r.denominator
    .ofCount (value / unit) place

end LogMarkup
