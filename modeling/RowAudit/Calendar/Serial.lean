import RowAudit.Calendar.DateTime
import RowAudit.Double.Arithmetic

/-!
Serial dates: the number of days since 30 December 1899, where the fraction is
the time of day to the nearest millisecond.
-/

namespace RowAudit.DateTime

/-- One past the greatest count of milliseconds that a serial date may come
to. -/
def millisecondLimit : Nat :=
  Nat.pow 2 63

def ofSerial? (serial : Double) : Option DateTime :=
  match (serial * Double.ofInt millisecondsPerDay).nearestInt? with
  | some count =>
      if count.natAbs < millisecondLimit then ofMilliseconds? count else none
  | none => none

def toSerial (moment : DateTime) : Double :=
  Double.ofInt moment.milliseconds / Double.ofInt millisecondsPerDay

end RowAudit.DateTime
