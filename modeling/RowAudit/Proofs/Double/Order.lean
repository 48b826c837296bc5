import RowAudit.Double.Basic

namespace RowAudit.Double

variable {x y z : Double}

theorem position_eq_none_iff : x.position = none ↔ x = .nan := by
  cases x with
  | nan => exact ⟨fun _ => rfl, fun _ => rfl⟩
  | infinite negative =>
      exact ⟨fun none => absurd none (Option.some_ne_none _),
        fun nan => nomatch nan⟩
  | finite negative units representable =>
      exact ⟨fun none => absurd none (Option.some_ne_none _),
        fun nan => nomatch nan⟩

theorem compare?_swap (x y : Double) :
    y.compare? x = (x.compare? y).map Ordering.swap := by
  rw [compare?, compare?]
  cases x.position with
  | none => cases y.position <;> rfl
  | some left =>
      cases y.position with
      | none => rfl
      | some right => exact congrArg some Std.OrientedCmp.eq_swap

theorem compare?_eq_none_iff : x.compare? y = none ↔ x = .nan ∨ y = .nan := by
  rw [← position_eq_none_iff, ← position_eq_none_iff, compare?]
  cases x.position <;> cases y.position <;> simp

theorem equals_iff :
    x.equals y = true ↔ ∃ place,
      x.position = some place ∧ y.position = some place := by
  rw [equals, compare?]
  cases x.position with
  | none => simp
  | some left =>
      cases y.position with
      | none => simp
      | some right =>
          simp only [beq_iff_eq, Option.some.injEq,
            Std.LawfulEqCmp.compare_eq_iff_eq, exists_eq_left']
          exact eq_comm

theorem equals_symm (equal : x.equals y = true) : y.equals x = true := by
  obtain ⟨place, left, right⟩ := equals_iff.mp equal
  exact equals_iff.mpr ⟨place, right, left⟩

theorem equals_trans (first : x.equals y = true) (second : y.equals z = true) :
    x.equals z = true := by
  obtain ⟨place, left, middle⟩ := equals_iff.mp first
  obtain ⟨other, same, right⟩ := equals_iff.mp second
  obtain rfl := Option.some.inj (middle.symm.trans same)
  exact equals_iff.mpr ⟨place, left, right⟩

variable {negative sign : Bool} {units other : Nat}
  {representable : Representable units}
  {otherRepresentable : Representable other}

theorem equals_finite_iff :
    (finite negative units representable).equals
      (finite sign other otherRepresentable) = true ↔
      units = other ∧ (negative = sign ∨ units = 0) := by
  have left : (finite negative units representable).position =
      some (if negative then -(units : Int) else units) := rfl
  have right : (finite sign other otherRepresentable).position =
      some (if sign then -(other : Int) else other) := rfl
  simp only [equals_iff, left, right, Option.some.injEq, exists_eq_left']
  -- Both signs decide how the two numbers can be the same place.
  cases negative <;> cases sign <;>
    simp only [Bool.false_eq_true, if_false, if_true, reduceCtorEq, false_or,
      true_or, and_true] <;> omega

theorem exists_finite_of_equals
    (same : (finite negative units representable).equals y = true) :
    ∃ sign other otherRepresentable,
      y = finite sign other otherRepresentable := by
  obtain ⟨place, left, right⟩ := equals_iff.mp same
  have small : units < overflow := representable.1
  have left := Option.some.inj left
  cases y with
  | nan => cases right
  | infinite sign =>
      have right := Option.some.inj right
      cases negative <;> cases sign <;>
        simp only [Bool.false_eq_true, if_false, if_true]
          at left right <;> omega
  | finite sign other otherRepresentable =>
      exact ⟨sign, other, otherRepresentable, rfl⟩

end RowAudit.Double
