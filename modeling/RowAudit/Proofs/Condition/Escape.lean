import RowAudit.Proofs.Condition.Literal

namespace RowAudit.Condition

def escape (quote : Char) (cs : List Char) : List Char :=
  cs.flatMap fun c => if c = '\\' ∨ c = quote then ['\\', c] else [c]

def markOf (quote c : Char) : Mark quote :=
  if special : c = '\\' ∨ c = quote then .escaped c
  else .plain c (not_or.mp special).1 (not_or.mp special).2

def marksOf (quote : Char) (cs : List Char) : List (Mark quote) :=
  cs.map (markOf quote)

variable {quote c : Char} {cs : List Char}

@[simp] theorem escape_nil : escape quote [] = [] := rfl

@[simp] theorem escape_append (left right : List Char) :
    escape quote (left ++ right) = escape quote left ++ escape quote right :=
  List.flatMap_append ..

theorem escape_cons_of_special (special : c = '\\' ∨ c = quote) :
    escape quote (c :: cs) = '\\' :: c :: escape quote cs := by
  rw [escape, List.flatMap_cons, if_pos special]
  rfl

theorem escape_cons_of_plain (plain : ¬ (c = '\\' ∨ c = quote)) :
    escape quote (c :: cs) = c :: escape quote cs := by
  rw [escape, List.flatMap_cons, if_neg plain]
  rfl

theorem escape_eq_self (plain : ∀ c ∈ cs, ¬ (c = '\\' ∨ c = quote)) :
    escape quote cs = cs := by
  induction cs with
  | nil => rfl
  | cons c rest ih =>
      obtain ⟨first, later⟩ := List.forall_mem_cons.mp plain
      rw [escape_cons_of_plain first, ih later]

theorem not_special_of_settled (proper : isQuote quote = true)
    (settled : Text.Settled c) : ¬ (c = '\\' ∨ c = quote) := by
  intro special
  rcases special with rfl | rfl
  · exact absurd settled.high (by decide)
  · rw [isQuote_of_high settled.high] at proper
    cases proper

theorem lowerChar_special (proper : isQuote quote = true)
    (special : c = '\\' ∨ c = quote) : Text.lowerChar c = [c] := by
  rcases special with rfl | rfl
  · rfl
  · exact lowerChar_quote proper

theorem escape_lowerChar (proper : isQuote quote = true)
    (plain : ¬ (c = '\\' ∨ c = quote)) :
    escape quote (Text.lowerChar c) = Text.lowerChar c := by
  apply escape_eq_self
  intro d member
  rcases Text.lowerChar_eq_or_settled c with same | settled
  · rw [same] at member
    obtain rfl := List.mem_singleton.mp member
    exact plain
  · exact not_special_of_settled proper (settled d member)

theorem escape_eq_written (quote : Char) (cs : List Char) :
    escape quote cs = Mark.written (marksOf quote cs) := by
  induction cs with
  | nil => rfl
  | cons c cs ih =>
      rw [marksOf, List.map_cons, Mark.written_cons]
      by_cases special : c = '\\' ∨ c = quote
      · rw [escape_cons_of_special special, ih, markOf, dif_pos special]
        rfl
      · rw [escape_cons_of_plain special, ih, markOf, dif_neg special]
        rfl

theorem meaning_markOf (proper : isQuote quote = true) (c : Char) :
    (markOf quote c).meaning = c := by
  rw [markOf]
  split
  · next special =>
      -- No quote and no backslash stands for another character when it is
      -- escaped.
      rcases special with rfl | rfl
      · rfl
      · rcases isQuote_eq_true_iff.mp proper with rfl | rfl <;> rfl
  · rfl

theorem meaning_marksOf (proper : isQuote quote = true) (cs : List Char) :
    (marksOf quote cs).map Mark.meaning = cs := by
  rw [marksOf, List.map_map]
  exact List.map_id'' (meaning_markOf proper) cs

theorem form_markOf (proper : isQuote quote = true) (c : Char) :
    (markOf quote c).form = escape quote (Text.lowerChar c) := by
  rw [markOf]
  split
  · next special =>
      rw [lowerChar_special proper special, escape_cons_of_special special]
      rfl
  · next plain => exact (escape_lowerChar proper plain).symm

/-- The text of a literal comes through in lower case, and escaped as it was. -/
theorem normalizeFrom_escape (proper : isQuote quote = true)
    (cs rest : List Char) :
    normalizeFrom (.inside quote) (escape quote cs ++ rest) =
      escape quote (Text.lowerEach cs) ++
        normalizeFrom (.inside quote) rest := by
  have forms : (marksOf quote cs).flatMap Mark.form =
      escape quote (Text.lowerEach cs) := by
    induction cs with
    | nil => rfl
    | cons c cs ih =>
        rw [Text.lowerEach_cons, escape_append, ← ih, ← form_markOf proper,
          marksOf, List.map_cons, List.flatMap_cons]
        rfl
  rw [escape_eq_written, normalizeFrom_written, forms]

theorem Lexer.literalBody?_escape (proper : isQuote quote = true)
    (cs rest : List Char) :
    literalBody? quote (escape quote cs ++ quote :: rest) =
      some (cs, rest) := by
  rw [escape_eq_written, literalBody?_written proper, meaning_marksOf proper]

end RowAudit.Condition
