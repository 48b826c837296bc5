import RowAudit.Calendar.Date
import RowAudit.Double.Decimal

namespace RowAudit

/-- Whole days since 30 December 1899, and nanoseconds since the midnight that
began the day. -/
structure DateTime where
  day : Int
  nanosecond : Nat
  deriving DecidableEq

namespace DateTime

def epoch : Int :=
  CalendarDate.dayNumber ⟨1899, 12, 30⟩

def nanosecondsPerMillisecond : Nat :=
  1000000

def nanosecondsPerSecond : Nat :=
  1000000000

def millisecondsPerDay : Nat :=
  86400000

def nanosecondsPerDay : Nat :=
  millisecondsPerDay * nanosecondsPerMillisecond

def firstDay : Int :=
  CalendarDate.dayNumber ⟨-262143, 1, 1⟩ - epoch

def lastDay : Int :=
  CalendarDate.dayNumber ⟨262142, 12, 31⟩ - epoch

def date (moment : DateTime) : CalendarDate :=
  CalendarDate.ofDayNumber (moment.day + epoch)

def ofMilliseconds? (count : Int) : Option DateTime :=
  let day := count / millisecondsPerDay
  if firstDay ≤ day ∧ day ≤ lastDay then
    some ⟨day, (count % millisecondsPerDay).toNat * nanosecondsPerMillisecond⟩
  else none

/-- Milliseconds since the beginning of day zero; a part of one is dropped,
towards day zero. -/
def milliseconds (moment : DateTime) : Int :=
  (moment.day * nanosecondsPerDay + moment.nanosecond).tdiv
    nanosecondsPerMillisecond

def order (left right : DateTime) : Ordering :=
  (compare left.day right.day).then (compare left.nanosecond right.nanosecond)

def clockText (nanosecond : Nat) : List Char :=
  let seconds := nanosecond / nanosecondsPerSecond
  CalendarDate.padded 2 (seconds / 3600) ++ ':' ::
  CalendarDate.padded 2 (seconds / 60 % 60) ++
    ':' :: CalendarDate.padded 2 (seconds % 60)

def cellText (moment : DateTime) : String :=
  String.ofList <|
    if moment.nanosecond = 0 then moment.date.text
    else moment.date.text ++ ' ' :: clockText moment.nanosecond

/-- The part of a second in thousandths, millionths or billionths, whichever is
the coarsest that is exact. -/
def fractionText (nanosecond : Nat) : List Char :=
  let part := nanosecond % nanosecondsPerSecond
  if part = 0 then []
  else if part % 1000000 = 0 then '.' :: CalendarDate.padded 3 (part / 1000000)
  else if part % 1000 = 0 then '.' :: CalendarDate.padded 6 (part / 1000)
  else '.' :: CalendarDate.padded 9 part

def fullText (moment : DateTime) : String :=
  String.ofList <|
    moment.date.text ++ 'T' :: clockText moment.nanosecond ++
    fractionText moment.nanosecond

end DateTime

end RowAudit
