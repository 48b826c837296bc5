import RowAudit.Proofs.Double.Notation

namespace RowAudit

/-- An order that is settled by one feature and, where that is the same, by the
rest. -/
theorem eq_then_of_feature {whole feature rest : Ordering}
    (less : feature = .lt → whole = .lt) (greater : feature = .gt → whole = .gt)
    (same : feature = .eq → whole = rest) : whole = feature.then rest := by
  cases feature with
  | lt => exact less rfl
  | eq => exact same rfl
  | gt => exact greater rfl

theorem compare_congr {a b c d : Int} (less : a < b ↔ c < d)
    (same : a = b ↔ c = d) : compare a b = compare c d := by
  simp only [compare, compareOfLessAndEq, less, same]

theorem compare_intCast (a b : Nat) :
    compare (a : Int) (b : Int) = compare a b := by
  simp only [compare, compareOfLessAndEq, Int.ofNat_lt, Int.ofNat_inj]

theorem compare_add_left (a b common : Nat) :
    compare (common + a) (common + b) = compare a b := by
  simp only [compare, compareOfLessAndEq, Nat.add_lt_add_iff_left,
    Nat.add_left_cancel_iff]

theorem compare_append {α : Type} [Ord α] {left right : List α}
    (lengths : left.length = right.length) (leftRest rightRest : List α) :
    compare (left ++ leftRest) (right ++ rightRest) =
      (compare left right).then (compare leftRest rightRest) := by
  induction left generalizing right with
  | nil =>
      rw [List.length_nil, eq_comm, List.length_eq_zero_iff] at lengths
      subst lengths
      rfl
  | cons a left ih =>
      cases right with
      | nil => cases lengths
      | cons b right =>
          rw [List.cons_append, List.cons_append, List.compare_cons_cons,
            List.compare_cons_cons, ih (Nat.succ.inj lengths),
            Ordering.then_assoc]

namespace Decimal

theorem ofDigits_cons (c : Char) (cs : List Char) :
    ofDigits (c :: cs) = 10 ^ cs.length * (c.toNat - '0'.toNat) +
      ofDigits cs := by
  have single : ofDigits [c] = c.toNat - '0'.toNat := by
    rw [ofDigits, List.foldl_cons, List.foldl_nil, Nat.mul_zero, Nat.zero_add]
  rw [← single, ← ofDigits_append, List.singleton_append]

theorem digit_bounds {c : Char} (digit : c.isDigit = true) :
    '0'.toNat ≤ c.toNat ∧ c.toNat ≤ '0'.toNat + 9 :=
  Char.isDigit_iff_toNat.mp digit

theorem ofDigits_lt {cs : List Char} (digits : ∀ c ∈ cs, c.isDigit = true) :
    ofDigits cs < 10 ^ cs.length := by
  induction cs with
  | nil => exact Nat.one_pos
  | cons c cs ih =>
      obtain ⟨first, later⟩ := List.forall_mem_cons.mp digits
      have bounds := digit_bounds first
      have below := ih later
      have most : 10 ^ cs.length * (c.toNat - '0'.toNat) ≤ 10 ^ cs.length * 9 :=
        Nat.mul_le_mul_left _ (by omega)
      rw [ofDigits_cons, List.length_cons, Nat.pow_succ]
      omega

/-- Of two numbers with as many digits the one with the greater first digit is
greater, whatever follows. -/
theorem ofDigits_cons_lt {c d : Char} {cs ds : List Char}
    (lengths : cs.length = ds.length) (digits : ∀ c ∈ cs, c.isDigit = true)
    (first : '0'.toNat ≤ c.toNat) (less : c < d) :
    ofDigits (c :: cs) < ofDigits (d :: ds) := by
  have less : c.toNat < d.toNat := less
  have below := ofDigits_lt digits
  have next : 10 ^ cs.length * (c.toNat - '0'.toNat + 1) ≤ 10 ^ cs.length *
      (d.toNat - '0'.toNat) :=
    Nat.mul_le_mul_left _ (by omega)
  rw [ofDigits_cons, ofDigits_cons, ← lengths]
  rw [Nat.mul_succ] at next
  omega

theorem compare_char_eq_lt {c d : Char} : compare c d = .lt ↔ c < d :=
  compareOfLessAndEq_eq_lt

theorem compare_ofDigits {cs ds : List Char} (lengths : cs.length = ds.length)
    (leftDigits : ∀ c ∈ cs, c.isDigit = true)
    (rightDigits : ∀ c ∈ ds, c.isDigit = true) :
    compare (ofDigits cs) (ofDigits ds) = compare cs ds := by
  -- On both texts at once: as they are of one length, their first digits stand
  -- at the same place.
  induction cs generalizing ds with
  | nil =>
      rw [List.length_nil, eq_comm, List.length_eq_zero_iff] at lengths
      subst lengths
      rfl
  | cons c cs ih =>
      cases ds with
      | nil => cases lengths
      | cons d ds =>
          have tails : cs.length = ds.length := Nat.succ.inj lengths
          obtain ⟨leftFirst, leftLater⟩ := List.forall_mem_cons.mp leftDigits
          obtain ⟨rightFirst, rightLater⟩ := List.forall_mem_cons.mp rightDigits
          rw [List.compare_cons_cons, ← ih tails leftLater rightLater]
          apply eq_then_of_feature
          · intro less
            have less := compare_char_eq_lt.mp less
            exact Nat.compare_eq_lt.mpr
              (ofDigits_cons_lt tails leftLater (digit_bounds leftFirst).1 less)
          · intro greater
            have less :=
              compare_char_eq_lt.mp (Std.OrientedCmp.gt_iff_lt.mp greater)
            exact Nat.compare_eq_gt.mpr
              (ofDigits_cons_lt tails.symm rightLater
                (digit_bounds rightFirst).1 less)
          · intro same
            obtain rfl := Std.LawfulEqCmp.compare_eq_iff_eq.mp same
            rw [ofDigits_cons, ofDigits_cons, tails, compare_add_left]

end Decimal

end RowAudit
