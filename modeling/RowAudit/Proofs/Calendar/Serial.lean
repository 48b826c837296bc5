import RowAudit.Calendar.Serial
import RowAudit.Proofs.Calendar.Date
import RowAudit.Proofs.Double.Whole

namespace RowAudit.DateTime

def midnight (day : Int) : DateTime :=
  ⟨day, 0⟩

/-- Whether the calendar goes to a day: it has the years from -262143 to
262142. -/
def Reached (day : Int) : Prop :=
  -262143 ≤ (midnight day).date.year ∧ (midnight day).date.year ≤ 262142

instance (day : Int) : Decidable (Reached day) :=
  inferInstanceAs (Decidable (_ ∧ _))

variable {day : Int}

theorem order_midnights (day other : Int) :
    (midnight day).order (midnight other) = compare day other :=
  Ordering.then_eq

/-! The reach of the calendar -/

theorem firstDay_eq : firstDay = -96439723 := by
  decide +kernel

theorem lastDay_eq : lastDay = 95051805 := by
  decide +kernel

theorem firstDay_add_epoch :
    firstDay + epoch = CalendarDate.daysBeforeYear (-262143) := by
  decide +kernel

theorem lastDay_add_epoch :
    lastDay + epoch + 1 = CalendarDate.daysBeforeYear (262142 + 1) := by
  decide +kernel

theorem reached_iff : Reached day ↔ firstDay ≤ day ∧ day ≤ lastDay := by
  have first := firstDay_add_epoch
  have last := lastDay_add_epoch
  obtain ⟨begun, notOver⟩ :=
    CalendarDate.dayNumber_bounds (midnight day).valid_date
  rw [dayNumber_date] at begun notOver
  change _ ≤ day + epoch at begun
  change day + epoch < _ at notOver
  constructor
  · rintro ⟨notBefore, notAfter⟩
    have lower := CalendarDate.daysBeforeYear_le notBefore
    have upper :=
      CalendarDate.daysBeforeYear_le (Int.add_le_add_right notAfter 1)
    omega
  · rintro ⟨notBefore, notAfter⟩
    constructor
    · by_contra before
      have lower := CalendarDate.daysBeforeYear_le (Int.not_le.mp before)
      omega
    · by_contra after
      have upper :=
        CalendarDate.daysBeforeYear_le
          (Int.add_one_le_iff.mpr (Int.not_le.mp after))
      omega

theorem Reached.natAbs_le (reached : Reached day) : day.natAbs ≤ 96439723 := by
  obtain ⟨notBefore, notAfter⟩ := reached_iff.mp reached
  rw [firstDay_eq] at notBefore
  rw [lastDay_eq] at notAfter
  omega

theorem Reached.milliseconds_small (reached : Reached day) :
    (day * millisecondsPerDay).natAbs ≤ Double.wholeLimit := by
  have near := reached.natAbs_le
  rw [millisecondsPerDay, Double.wholeLimit]
  omega

theorem Reached.small (reached : Reached day) :
    day.natAbs ≤ Double.wholeLimit :=
  reached.natAbs_le.trans (by decide)

theorem Reached.sub_small {other : Int} (reached : Reached day)
    (otherReached : Reached other) :
    (day - other).natAbs ≤ Double.wholeLimit := by
  have near := reached.natAbs_le
  have otherNear := otherReached.natAbs_le
  rw [Double.wholeLimit]
  omega

theorem millisecondsPerDay_small :
    (millisecondsPerDay : Int).natAbs ≤ Double.wholeLimit := by
  decide

/-! Milliseconds -/

theorem ofMilliseconds?_mul (day : Int) :
    ofMilliseconds? (day * millisecondsPerDay) = if Reached day then
      some (midnight day) else none := by
  have nonzero : (millisecondsPerDay : Int) ≠ 0 := by decide
  have whole : day * millisecondsPerDay / millisecondsPerDay = day :=
    Int.mul_ediv_cancel day nonzero
  have rest : (day * millisecondsPerDay % millisecondsPerDay).toNat *
      nanosecondsPerMillisecond = 0 := by
    rw [Int.mul_emod_left, Int.toNat_zero, Nat.zero_mul]
  rw [ofMilliseconds?, whole, rest]
  exact if_congr reached_iff.symm rfl rfl

theorem ofMilliseconds?_eq_none {count : Int}
    (large : Double.wholeLimit - 1 ≤ count.natAbs) :
    ofMilliseconds? count = none := by
  apply if_neg
  rw [firstDay_eq, lastDay_eq, millisecondsPerDay]
  rw [Double.wholeLimit] at large
  omega

theorem milliseconds_midnight (day : Int) :
    (midnight day).milliseconds = day * millisecondsPerDay := by
  have nonzero : (nanosecondsPerMillisecond : Int) ≠ 0 := by decide
  show (day * (nanosecondsPerDay : Nat) + (0 : Nat)).tdiv
    nanosecondsPerMillisecond = _
  rw [nanosecondsPerDay, Int.natCast_mul, ← Int.mul_assoc, Int.natCast_zero,
    Int.add_zero, Int.mul_tdiv_cancel _ nonzero]

/-! Serial dates -/

theorem ofSerial?_of_isWhole {x : Double} (whole : x.IsWhole day) :
    ofSerial? x = if Reached day then some (midnight day) else none := by
  have scale := Double.isWhole_ofInt millisecondsPerDay_small
  by_cases small : (day * millisecondsPerDay).natAbs ≤ Double.wholeLimit
  · have limited : (day * millisecondsPerDay).natAbs < millisecondLimit :=
      small.trans_lt (by decide)
    rw [ofSerial?, (whole.mul scale small).nearestInt?]
    exact (if_pos limited).trans (ofMilliseconds?_mul day)
  · rw [if_neg (mt Reached.milliseconds_small small), ofSerial?]
    split
    · next count nearest =>
        have large :=
          whole.le_natAbs_of_nearestInt?_mul scale
            (Nat.le_of_not_le small) nearest
        rw [ofMilliseconds?_eq_none large, ite_self]
    · rfl

theorem Reached.ofSerial? (reached : Reached day) {x : Double}
    (whole : x.IsWhole day) : ofSerial? x = some (midnight day) := by
  rw [ofSerial?_of_isWhole whole, if_pos reached]

theorem ofSerial?_of_not_reached (unreached : ¬ Reached day) {x : Double}
    (whole : x.IsWhole day) : ofSerial? x = none := by
  rw [ofSerial?_of_isWhole whole, if_neg unreached]

theorem Reached.isWhole_ofInt (reached : Reached day) :
    (Double.ofInt day).IsWhole day :=
  Double.isWhole_ofInt reached.small

theorem Reached.toSerial_midnight (reached : Reached day) :
    (midnight day).toSerial = Double.ofInt day := by
  have positive : (0 : Int) < millisecondsPerDay := by decide
  rw [toSerial, milliseconds_midnight,
    Double.ofInt_mul_div positive millisecondsPerDay_small
      reached.milliseconds_small]

/-- A day as a serial date, there and back. -/
structure ExactSerial (day : Int) : Prop where
  valid : (midnight day).date.Valid
  counted : (midnight day).date.dayNumber =
    CalendarDate.dayNumber ⟨1899, 12, 30⟩ + day
  read : ∀ x : Double, x.IsWhole day →
    DateTime.ofSerial? x = some (midnight day)
  written : (midnight day).toSerial = Double.ofInt day
  whole : (Double.ofInt day).IsWhole day

theorem Reached.exactSerial (reached : Reached day) : ExactSerial day where
  valid := (midnight day).valid_date
  counted := (midnight day).dayNumber_date.trans (Int.add_comm day epoch)
  read _ := reached.ofSerial?
  written := reached.toSerial_midnight
  whole := reached.isWhole_ofInt

end RowAudit.DateTime
