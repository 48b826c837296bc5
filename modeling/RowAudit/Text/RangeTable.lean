namespace RowAudit

/-- Ascending ranges of code points, both ends included. -/
abbrev RangeTable := List (Nat × Nat)

/-- Looking up stops at the first range that begins beyond the code point. -/
def RangeTable.holds : RangeTable → Nat → Bool
  | [], _ => false
  | (first, last) :: rest, code =>
      decide (first ≤ code) &&
        (decide (code ≤ last) || RangeTable.holds rest code)

@[simp] theorem RangeTable.holds_nil (code : Nat) :
    RangeTable.holds [] code = false := rfl

theorem RangeTable.exists_range_of_holds {table : RangeTable} {code : Nat}
    (held : table.holds code = true) :
    ∃ range ∈ table, range.1 ≤ code ∧ code ≤ range.2 := by
  induction table with
  | nil => simp at held
  | cons range rest ih =>
      simp only [RangeTable.holds, Bool.and_eq_true, Bool.or_eq_true,
        decide_eq_true_eq] at held
      rcases held.2 with within | later
      · exact ⟨range, by simp, held.1, within⟩
      · obtain ⟨found, member, bounds⟩ := ih later
        exact ⟨found, by simp [member], bounds⟩

end RowAudit
