import LogMarkup.Calendar
import LogMarkup.Value

/-!
# Timestamps

A point in time as the value of an argument. A format says which fields are written and whether
they are those of the time zone or of universal time; all fields but the year have a fixed
width, from the largest unit to the smallest, with the weekday between date and clock.
-/

namespace LogMarkup

structure TimeFormat where
  /-- Write universal time instead of the time of the zone. -/
  utc : Bool
  /-- Month and day. -/
  date : Bool
  /-- Two letters of the weekday. Implies the date. -/
  weekday : Bool
  /-- The year in front of the date. Implies the date. -/
  year : Bool
  /-- Hours, minutes and seconds. -/
  clock : Bool
  /-- Three places of the second. Implies the clock. -/
  millis : Bool
  /-- Six places of the second. Implies the clock, and goes before three places. -/
  micros : Bool
  deriving DecidableEq, Repr

namespace TimeFormat

def empty : TimeFormat := ⟨false, false, false, false, false, false, false⟩

/-- Date, weekday and clock. -/
def standard : TimeFormat := { empty with date := true, weekday := true, clock := true }

def hasDate (f : TimeFormat) : Bool := f.date || f.year || f.weekday

def hasClock (f : TimeFormat) : Bool := f.clock || f.millis || f.micros

end TimeFormat

structure Timestamp where
  format : TimeFormat
  /-- The fields that are written. -/
  time : DateTime

namespace Timestamp

/-- The timestamp of a point in universal time, in a zone `offset` seconds east of it. -/
def ofUtc (format : TimeFormat) (time : DateTime) (offset : Int) : Timestamp :=
  ⟨format, if format.utc then time else time.shifted offset⟩

/-- A number with zeros in front, each written by itself. -/
def padded (width n : Nat) : List Piece :=
  (leadingZeros width n).map .char ++ [.text (decimal n)]

/-- A year has at least four characters, a minus sign among them. -/
def yearPieces (year : Int) : List Piece :=
  (if year < 0 then .char '-' :: padded 3 year.natAbs else padded 4 year.natAbs) ++
    [.text ['-']]

def datePieces (f : TimeFormat) (d : Date) : List Piece :=
  (if f.year then yearPieces d.year else []) ++
    padded 2 d.month ++ [.text ['-']] ++ padded 2 d.day ++
    (if f.weekday then [.text [' '], .text (Weekday.ofDate d).short] else [])

/-- The places of the second, without what a leap second adds. -/
def fractionPieces (f : TimeFormat) (nanosecond : Nat) : List Piece :=
  let nanos := nanosecond % 1000000000
  if f.micros then .text ['.'] :: padded 6 (nanos / 1000)
  else if f.millis then .text ['.'] :: padded 3 (nanos / 1000000)
  else []

def clockPieces (f : TimeFormat) (t : DateTime) : List Piece :=
  padded 2 t.hour ++ [.text [':']] ++ padded 2 t.minute ++ [.text [':']] ++ padded 2 t.second ++
    fractionPieces f t.nanosecond

def pieces (s : Timestamp) : List Piece :=
  (if s.format.hasDate then
    datePieces s.format s.time.date ++ (if s.format.hasClock then [.char ' '] else [])
  else []) ++
    if s.format.hasClock then clockPieces s.format s.time else []

instance : ToValue Timestamp := ⟨fun s => .custom s.pieces⟩

end Timestamp

end LogMarkup
