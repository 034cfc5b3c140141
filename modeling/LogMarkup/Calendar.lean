/-!
# Calendar

Dates of the Gregorian calendar, extended to all years, and their numbers counted in days from
the first of January 1970. Years are counted from March on, so that the day that is there only
in some years is the last of its year.
-/

namespace LogMarkup

structure Date where
  year : Int
  month : Nat
  day : Nat
  deriving DecidableEq, Repr

namespace Date

/-- Days in four hundred years. -/
def eraDays : Int := 146097

/-- Days from the first of March in year 0 to the first of January 1970. -/
def epochDays : Int := 719468

/-- The number of the day. -/
def number (d : Date) : Int :=
  let year := if d.month ≤ 2 then d.year - 1 else d.year
  let month : Int := ((d.month + 9) % 12 : Nat)
  let era := year.fdiv 400
  let yearOfEra := year - era * 400
  let dayOfYear := (153 * month + 2).fdiv 5 + d.day - 1
  let dayOfEra := yearOfEra * 365 + yearOfEra.fdiv 4 - yearOfEra.fdiv 100 + dayOfYear
  era * eraDays + dayOfEra - epochDays

/-- The date of a day number. -/
def ofNumber (n : Int) : Date :=
  let shifted := n + epochDays
  let era := shifted.fdiv eraDays
  let dayOfEra := shifted - era * eraDays
  let yearOfEra :=
    (dayOfEra - dayOfEra.fdiv 1460 + dayOfEra.fdiv 36524 - dayOfEra.fdiv 146096).fdiv 365
  let dayOfYear := dayOfEra - (365 * yearOfEra + yearOfEra.fdiv 4 - yearOfEra.fdiv 100)
  let month := ((5 * dayOfYear + 2).fdiv 153).toNat
  let day := (dayOfYear - (153 * (month : Int) + 2).fdiv 5 + 1).toNat
  let month := if month < 10 then month + 3 else month - 9
  ⟨yearOfEra + era * 400 + (if month ≤ 2 then 1 else 0), month, day⟩

end Date

inductive Weekday where
  | monday | tuesday | wednesday | thursday | friday | saturday | sunday
  deriving DecidableEq, Repr

namespace Weekday

/-- The weekdays from the one of day number 0 on. -/
def fromEpoch : List Weekday :=
  [.thursday, .friday, .saturday, .sunday, .monday, .tuesday, .wednesday]

def ofDate (d : Date) : Weekday := (fromEpoch[(d.number.fmod 7).toNat]?).getD .thursday

/-- The first two letters. -/
def short : Weekday → List Char
  | .monday => "Mo".toList
  | .tuesday => "Tu".toList
  | .wednesday => "We".toList
  | .thursday => "Th".toList
  | .friday => "Fr".toList
  | .saturday => "Sa".toList
  | .sunday => "Su".toList

end Weekday

/-- A point in time as calendar and clock show it. In a leap second the nanoseconds go on
counting from a thousand millions. -/
structure DateTime where
  date : Date
  hour : Nat
  minute : Nat
  second : Nat
  nanosecond : Nat
  deriving DecidableEq, Repr

namespace DateTime

def secondsPerDay : Int := 86400

/-- The whole seconds since the start of 1970. -/
def seconds (t : DateTime) : Int :=
  t.date.number * secondsPerDay + t.hour * 3600 + t.minute * 60 + t.second

/-- What calendar and clock show `offset` seconds further east. -/
def shifted (t : DateTime) (offset : Int) : DateTime :=
  let seconds := t.seconds + offset
  let secondOfDay := (seconds.fmod secondsPerDay).toNat
  { date := .ofNumber (seconds.fdiv secondsPerDay)
    hour := secondOfDay / 3600
    minute := secondOfDay / 60 % 60
    second := secondOfDay % 60
    nanosecond := t.nanosecond }

end DateTime

end LogMarkup
