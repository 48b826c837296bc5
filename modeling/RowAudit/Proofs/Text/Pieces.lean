import RowAudit.Text.Pieces

namespace RowAudit.Text

variable {α : Type} [DecidableEq α] {separator : α}

theorem pieces_cons_separator (separator : α) (rest : List α) :
    pieces separator (separator :: rest) = [] :: pieces separator rest :=
  if_pos rfl

theorem pieces_append_of_not_mem {cs : List α} (absent : separator ∉ cs)
    {first : List α} {others : List (List α)} {rest : List α}
    (split : pieces separator rest = first :: others) :
    pieces separator (cs ++ rest) = (cs ++ first) :: others := by
  induction cs with
  | nil => exact split
  | cons c cs ih =>
      rw [List.mem_cons, not_or] at absent
      rw [List.cons_append, pieces, if_neg fun same => absent.1 same.symm,
        ih absent.2]
      rfl

theorem pieces_of_not_mem {cs : List α} (absent : separator ∉ cs) :
    pieces separator cs = [cs] := by
  have whole : pieces separator (cs ++ []) = [cs ++ []] :=
    pieces_append_of_not_mem absent rfl
  rwa [List.append_nil] at whole

theorem pieces_append_separator (left right : List α) :
    pieces separator (left ++ separator :: right) = pieces separator left ++
      pieces separator right := by
  induction left with
  | nil => exact pieces_cons_separator separator right
  | cons c left ih =>
      by_cases same : c = separator
      · subst same
        rw [List.cons_append, pieces_cons_separator, pieces_cons_separator, ih,
          List.cons_append]
      · obtain ⟨first, others, split⟩ :=
          List.exists_cons_of_ne_nil (pieces_ne_nil separator left)
        have before :
            pieces separator (c :: left) = (c :: first) :: others := by
          rw [pieces, if_neg same, split]
        rw [List.cons_append, pieces, if_neg same, ih, split, before]
        rfl

theorem pieces_separated {first : List α} {others : List (List α)}
    (absent : ∀ part ∈ first :: others, separator ∉ part) :
    pieces separator (first ++ others.flatMap (separator :: ·)) =
      first :: others := by
  induction others generalizing first with
  | nil =>
      rw [List.flatMap_nil, List.append_nil]
      exact pieces_of_not_mem (absent first List.mem_cons_self)
  | cons second others ih =>
      obtain ⟨here, later⟩ := List.forall_mem_cons.mp absent
      rw [List.flatMap_cons, List.cons_append, pieces_append_separator,
        pieces_of_not_mem here, ih later]
      rfl

omit [DecidableEq α] in
theorem flatten_intersperse (separator : α) (first : List α)
    (others : List (List α)) :
    ((first :: others).intersperse [separator]).flatten =
      first ++ others.flatMap (separator :: ·) := by
  induction others generalizing first with
  | nil => simp
  | cons second others ih =>
      rw [List.intersperse_cons_cons, List.flatten_cons, List.flatten_cons, ih]
      rfl

/-! Scanning up to the first character that does not belong. -/

theorem head_cons {p : Char → Bool} {c : Char} {rest : List Char}
    (stop : p c = false) : ∀ d ∈ (c :: rest).head?, p d = false := by
  intro d first
  obtain rfl := Option.some.inj first
  exact stop

section

variable {p : Char → Bool} {cs rest : List Char} (all : ∀ c ∈ cs, p c = true)
  (stops : ∀ c ∈ rest.head?, p c = false)
include all stops

theorem takeWhile_append_of_stops : (cs ++ rest).takeWhile p = cs := by
  rw [List.takeWhile_append_of_pos all]
  cases rest with
  | nil => exact List.append_nil cs
  | cons c rest =>
      rw [List.takeWhile_cons_of_neg (by simp [stops c rfl]), List.append_nil]

theorem dropWhile_append_of_stops : (cs ++ rest).dropWhile p = rest := by
  rw [List.dropWhile_append_of_pos all]
  cases rest with
  | nil => rfl
  | cons c rest => exact List.dropWhile_cons_of_neg (by simp [stops c rfl])

end

end RowAudit.Text
