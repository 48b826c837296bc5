import Mathlib.Data.List.Forall2

namespace RowAudit

variable {α β ε : Type} {f : α → Except ε β} {items : List α}

theorem bind_pure_eq_error_iff {outcome : Except ε α} {g : α → β} {fault : ε} :
    (do let result ← outcome; pure (g result)) = Except.error fault ↔
      outcome = .error fault := by
  cases outcome with
  | error own =>
      constructor
      · intro refused
        exact congrArg Except.error (Except.error.inj refused)
      · intro refused
        exact congrArg Except.error (Except.error.inj refused)
  | ok result =>
      constructor
      · intro refused
        cases refused
      · intro refused
        cases refused

theorem mapM_cons_eq_ok_iff {item : α} {results : List β} :
    (item :: items).mapM f = .ok results ↔
      ∃ result later, f item = .ok result ∧ items.mapM f = .ok later ∧
        results = result :: later := by
  rw [List.mapM_cons]
  cases f item with
  | error fault => simp [bind, Except.bind]
  | ok result =>
      cases items.mapM f with
      | error fault => simp [bind, Except.bind]
      | ok later => simp [bind, Except.bind, pure, Except.pure, eq_comm]

theorem mapM_eq_ok_iff {results : List β} :
    items.mapM f = .ok results ↔
      List.Forall₂ (fun item result => f item = .ok result) items results := by
  induction items generalizing results with
  | nil =>
      constructor
      · intro none
        obtain rfl := Except.ok.inj none
        exact .nil
      · intro none
        cases none
        rfl
  | cons item rest ih =>
      rw [mapM_cons_eq_ok_iff]
      constructor
      · intro mapped
        obtain ⟨result, later, first, following, rfl⟩ := mapped
        exact .cons first (ih.mp following)
      · intro each
        cases each with
        | cons first later => exact ⟨_, _, first, ih.mpr later, rfl⟩

theorem mapM_cons_eq_error_iff {item : α} {fault : ε} :
    (item :: items).mapM f = .error fault ↔
      f item = .error fault ∨ (∃ result, f item = .ok result) ∧
        items.mapM f = .error fault := by
  rw [List.mapM_cons]
  cases f item with
  | error own =>
      constructor
      · intro refused
        exact .inl (congrArg Except.error (Except.error.inj refused))
      · intro either
        rcases either with refused | ⟨⟨_, read⟩, -⟩
        · exact congrArg Except.error (Except.error.inj refused)
        · cases read
  | ok result =>
      refine bind_pure_eq_error_iff.trans ⟨?_, ?_⟩
      · exact fun refused => .inr ⟨⟨result, rfl⟩, refused⟩
      · intro either
        rcases either with refused | ⟨-, refused⟩
        · cases refused
        · exact refused

/-- The first item of a kind, if those before it are of another: it is the head,
or the first behind it. -/
theorem exists_split_cons_iff {p q : α → Prop} {head : α} :
    (∃ front item back, head :: items = front ++ item :: back ∧ p item ∧
      ∀ earlier ∈ front, q earlier) ↔
      p head ∨ q head ∧
        ∃ front item back, items = front ++ item :: back ∧ p item ∧
          ∀ earlier ∈ front, q earlier := by
  constructor
  · intro found
    obtain ⟨front, item, back, split, holds, earlier⟩ := found
    cases front with
    | nil =>
        obtain ⟨rfl, -⟩ := List.cons.inj split
        exact .inl holds
    | cons first front =>
        obtain ⟨rfl, rfl⟩ := List.cons.inj split
        obtain ⟨here, later⟩ := List.forall_mem_cons.mp earlier
        exact .inr ⟨here, front, item, back, rfl, holds, later⟩
  · intro either
    rcases either with holds | ⟨here, front, item, back, rfl, holds, later⟩
    · exact ⟨[], head, items, rfl, holds, fun _ member => nomatch member⟩
    · exact ⟨head :: front, item, back, rfl, holds,
        List.forall_mem_cons.mpr ⟨here, later⟩⟩

theorem mapM_eq_error_iff {fault : ε} :
    items.mapM f = .error fault ↔
      ∃ front item back, items = front ++ item :: back ∧ f item = .error fault ∧
        ∀ earlier ∈ front, ∃ result, f earlier = .ok result := by
  induction items with
  | nil =>
      constructor
      · intro none
        cases none
      · intro found
        obtain ⟨front, item, back, split, -⟩ := found
        cases front <;> cases split
  | cons item rest ih => rw [mapM_cons_eq_error_iff, ih, exists_split_cons_iff]

end RowAudit
