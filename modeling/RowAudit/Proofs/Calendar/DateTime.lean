import RowAudit.Calendar.DateTime

namespace RowAudit.DateTime

theorem order_swap (left right : DateTime) :
    right.order left = (left.order right).swap := by
  have days : compare right.day left.day = (compare left.day right.day).swap :=
    Std.OrientedCmp.eq_swap
  have clocks : compare right.nanosecond left.nanosecond =
      (compare left.nanosecond right.nanosecond).swap :=
    Std.OrientedCmp.eq_swap
  rw [order, order, Ordering.swap_then, days, clocks]

theorem order_eq_eq_iff {left right : DateTime} :
    left.order right = .eq ↔ left = right := by
  rw [order, Ordering.then_eq_eq, Std.LawfulEqCmp.compare_eq_iff_eq,
    Std.LawfulEqCmp.compare_eq_iff_eq]
  constructor
  · intro same
    cases left
    cases right
    obtain ⟨rfl, rfl⟩ := same
    rfl
  · rintro rfl
    exact ⟨rfl, rfl⟩

end RowAudit.DateTime
