namespace RowAudit

/-- A date of the calendar; months and days are counted from one, and years go
below one. -/
structure CalendarDate where
  year : Int
  month : Nat
  day : Nat
  deriving DecidableEq

namespace CalendarDate

def isLeap (year : Int) : Bool :=
  year % 4 == 0 && (year % 100 != 0 || year % 400 == 0)

def monthLengths (year : Int) : List Nat :=
  [31, if isLeap year then 29 else 28, 31, 30, 31, 30, 31, 31, 30, 31, 30, 31]

def daysBeforeYear (year : Int) : Int :=
  let past := year - 1
  365 * past + past / 4 - past / 100 + past / 400

def daysBeforeMonth (year : Int) (month : Nat) : Nat :=
  ((monthLengths year).take (month - 1)).foldl (· + ·) 0

/-- The number of the date's day, where the first of January of the year one is
day zero. -/
def dayNumber (date : CalendarDate) : Int :=
  daysBeforeYear date.year +
    (daysBeforeMonth date.year date.month + date.day - 1 : Nat)

/-- The year of a day: the year of average length that holds it, or a neighbour
of that year. -/
def yearOf (dayNumber : Int) : Int :=
  let guess := dayNumber * 400 / 146097 + 1
  if dayNumber < daysBeforeYear guess then guess - 1
  else if daysBeforeYear (guess + 1) ≤ dayNumber then guess + 1
  else guess

/-- Counts off months until the day falls into one; gives the month and the day
in it. -/
def monthAndDay : List Nat → Nat → Nat → Nat × Nat
  | [], month, past => (month, past + 1)
  | length :: later, month, past =>
      if past < length then (month, past + 1)
      else monthAndDay later (month + 1) (past - length)

def ofDayNumber (dayNumber : Int) : CalendarDate :=
  let year := yearOf dayNumber
  let (month, day) :=
    monthAndDay (monthLengths year) 1 (dayNumber - daysBeforeYear year).toNat
  { year, month, day }

def isValid (date : CalendarDate) : Bool :=
  1 ≤ date.month && 1 ≤ date.day &&
    ((monthLengths date.year)[date.month - 1]?).any fun length =>
      date.day ≤ length

def padded (width n : Nat) : List Char :=
  let digits := Nat.toDigits 10 n
  List.replicate (width - digits.length) '0' ++ digits

/-- Years have four digits; one outside the years 0 to 9999 has a sign too. -/
def yearText (year : Int) : List Char :=
  if year < 0 then '-' :: padded 4 year.natAbs
  else if 9999 < year then '+' :: padded 4 year.natAbs
  else padded 4 year.natAbs

def text (date : CalendarDate) : List Char :=
  yearText date.year ++ '-' :: padded 2 date.month ++ '-' :: padded 2 date.day

end CalendarDate

end RowAudit
