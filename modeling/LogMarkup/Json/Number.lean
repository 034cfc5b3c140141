import LogMarkup.Json.Fault
import LogMarkup.Template.Part

/-!
# Reading JSON numbers

A number without point and exponent is an integer if it fits 64 bits. All other numbers are
floating point: the leading digits that fit 64 bits, times a power of ten.

* `length_lt_of_readNumber`: what is left is shorter than what was given.
-/

namespace LogMarkup.Json

inductive Number where
  | integer (i : Int)
  | float (x : Float)

/-- The largest number of 64 bits. -/
def largestWord : Nat := UInt64.size - 1

def digitValue (c : Char) : Nat := c.toNat - '0'.toNat

/-- Continues a numeral with digits as long as it stays within the limit, and gives its value,
the number of digits taken, and the other digits. -/
def takeDigits (limit value : Nat) : Text → Nat × Nat × Text
  | [] => (value, 0, [])
  | c :: rest =>
    let extended := value * 10 + digitValue c
    if extended ≤ limit then
      let (value, taken, left) := takeDigits limit extended rest
      (value, taken + 1, left)
    else (value, 0, c :: rest)

/-! ## Values -/

/-- The largest power of ten that a floating point number is multiplied with or divided by. -/
def largestPower : Nat := 308

def powerOfTen (n : Nat) : Float := Float.ofScientific 1 false n

/-- Divides by powers of ten, at most the largest one at a time. -/
def divideByPower (x : Float) (power : Nat) : Float :=
  if power ≤ largestPower then x / powerOfTen power
  else if x == 0 then x
  else divideByPower (x / powerOfTen largestPower) (power - largestPower)
termination_by power
decreasing_by simp only [largestPower] at *; omega

/-- The significand times a power of ten, if that is finite. -/
def scale? (significand : Nat) (power : Int) : Option Float :=
  let x := Float.ofNat significand
  if power < 0 then some (divideByPower x power.natAbs)
  else if power.natAbs ≤ largestPower then
    let product := x * powerOfTen power.natAbs
    if product.isInf then none else some product
  else if x == 0 then some x
  else none

/-- The exponents are limited to 32 bits. -/
def largestExponent : Nat := UInt32.size / 2 - 1

/-- An exponent kept within 32 bits. -/
def saturate (power : Int) : Int := max (-largestExponent - 1) (min power largestExponent)

/-- The floating point number with the given digits before and after the point, if it is not too
large. -/
def floatOf? (negative : Bool) (whole places : Text) (exponent : Int) : Option Float :=
  let (significand, _, dropped) := takeDigits largestWord 0 whole
  let (significand, taken, _) := takeDigits largestWord significand places
  let power := (dropped.length : Int) - taken
  let scaled :=
    if exponent.natAbs ≤ largestExponent then scale? significand (saturate (power + exponent))
    else if significand = 0 ∨ exponent < 0 then some 0
    else none
  scaled.map fun x => if negative then -x else x

/-- The number with the given digits, neither point nor exponent, if it is not too large. Zero
with a sign is a floating point number. -/
def wholeNumber? (negative : Bool) (digits : Text) : Option Number :=
  let n := readDecimal digits
  if negative then
    if 0 < n ∧ n ≤ UInt64.size / 2 then some (.integer (-n)) else (floatOf? true digits [] 0).map .float
  else if n ≤ largestWord then some (.integer n)
  else (floatOf? false digits [] 0).map .float

/-! ## Reading -/

/-- An exponent, the text after it, and the text after the digit that is one too many for 32
bits. Without such a digit the two texts are the same. -/
structure Exponent where
  value : Int
  rest : Text
  checked : Text

/-- The exponent after its letter. -/
def readExponent (t : Text) : Exponent :=
  let (negative, t) := match t with
    | '-' :: rest => (true, rest)
    | '+' :: rest => (false, rest)
    | _ => (false, t)
  let digits := t.takeWhile isDecimalDigit
  let rest := t.dropWhile isDecimalDigit
  let n : Int := readDecimal digits
  let (_, _, beyond) := takeDigits largestExponent 0 digits
  ⟨if negative then -n else n, rest, beyond.drop 1 ++ rest⟩

/-- The exponent at the beginning of a text, if there is one. -/
def readExponent? : Text → Option Exponent
  | 'e' :: rest => some (readExponent rest)
  | 'E' :: rest => some (readExponent rest)
  | _ => none

/-- The digits after a point at the beginning of a text, if there is one, and the rest. -/
def readPlaces : Text → Option Text × Text
  | '.' :: rest => (some (rest.takeWhile isDecimalDigit), rest.dropWhile isDecimalDigit)
  | rest => (none, rest)

/-- A number after its sign, and the rest. A number that is too large is noticed at its end, or
before that at a digit of its exponent. -/
def readNumber (negative : Bool) (t : Text) : Except Stop (Number × Text) :=
  let whole := t.takeWhile isDecimalDigit
  let (places?, afterPlaces) := readPlaces (t.dropWhile isDecimalDigit)
  let exponent? := readExponent? afterPlaces
  let rest := exponent?.elim afterPlaces Exponent.rest
  let number? := match places?, exponent? with
    | none, none => wholeNumber? negative whole
    | _, _ =>
      (floatOf? negative whole (places?.getD []) (exponent?.elim 0 Exponent.value)).map .float
  match number? with
  | some number => .ok (number, rest)
  | none => .error ⟨.numberOutOfRange, exponent?.elim rest Exponent.checked⟩

theorem length_readExponent_le (t : Text) : (readExponent t).rest.length ≤ t.length := by
  unfold readExponent
  have h (u : Text) : (u.dropWhile isDecimalDigit).length ≤ u.length :=
    (List.dropWhile_suffix _).length_le
  split
  rename_i heq
  split at heq <;> cases heq <;> simp only [List.length_cons]
  · exact Nat.le_succ_of_le (h _)
  · exact Nat.le_succ_of_le (h _)
  · exact h _

theorem length_le_of_readExponent? {t : Text} {e : Exponent} (h : readExponent? t = some e) :
    e.rest.length ≤ t.length := by
  unfold readExponent? at h
  split at h <;> cases h <;> exact Nat.le_succ_of_le (length_readExponent_le _)

theorem length_readPlaces_le (t : Text) : (readPlaces t).2.length ≤ t.length := by
  unfold readPlaces
  split
  · exact Nat.le_succ_of_le (List.dropWhile_suffix _).length_le
  · exact Nat.le_refl _

theorem length_lt_of_readNumber {negative : Bool} {c : Char} {t rest : Text} {n : Number}
    (hc : isDecimalDigit c = true) (h : readNumber negative (c :: t) = .ok (n, rest)) :
    rest.length < (c :: t).length := by
  have hwhole : ((c :: t).dropWhile isDecimalDigit).length ≤ t.length := by
    rw [List.dropWhile_cons_of_pos hc]
    exact (List.dropWhile_suffix _).length_le
  have hplaces := length_readPlaces_le ((c :: t).dropWhile isDecimalDigit)
  unfold readNumber at h
  generalize readPlaces ((c :: t).dropWhile isDecimalDigit) = p at h hplaces
  obtain ⟨places?, afterPlaces⟩ := p
  simp only at h hplaces
  simp only [List.length_cons]
  cases he : readExponent? afterPlaces with
  | none =>
    simp only [he, Option.elim_none] at h
    split at h <;> cases h
    omega
  | some e =>
    simp only [he, Option.elim_some] at h
    have := length_le_of_readExponent? he
    split at h <;> cases h
    omega

end LogMarkup.Json
