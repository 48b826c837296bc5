import RowAudit.Condition.Choices
import RowAudit.Proofs.Condition.Normal

/-!
Literals by their marks. Between two quotes of a kind every character either
stands for itself or stands behind a backslash. What the reader of literals
reads is such a run of marks up to the closing quote, and the normal form of a
condition keeps the run.
-/

namespace RowAudit.Condition

/-- What stands for one character of a literal: the character itself, or any
character behind a backslash. -/
inductive Mark (quote : Char) where
  | plain (c : Char) (notBackslash : c ≠ '\\') (notQuote : c ≠ quote)
  | escaped (c : Char)

namespace Mark

variable {quote : Char}

def chars : Mark quote → List Char
  | plain c .. => [c]
  | escaped c => ['\\', c]

def meaning : Mark quote → Char
  | plain c .. => c
  | escaped c => Lexer.unescape c

def form : Mark quote → List Char
  | plain c .. => Text.lowerChar c
  | escaped c => ['\\', c]

def written (marks : List (Mark quote)) : List Char :=
  marks.flatMap chars

@[simp] theorem written_nil : written ([] : List (Mark quote)) = [] := rfl

@[simp] theorem written_cons (mark : Mark quote) (marks : List (Mark quote)) :
    written (mark :: marks) = mark.chars ++ written marks :=
  List.flatMap_cons

/-- A text is marks throughout, or marks up to a backslash at its end or up to a
quote that closes the literal. -/
theorem exists_marks (quote : Char) :
    (cs : List Char) → ∃ marks : List (Mark quote),
    cs = written marks ∨ cs = written marks ++ ['\\'] ∨ ∃ rest,
      cs = written marks ++ quote :: rest
  | [] => ⟨[], .inl rfl⟩
  | c :: rest => by
      by_cases closing : c = quote
      · exact ⟨[], .inr (.inr ⟨rest, by rw [closing]; rfl⟩)⟩
      · -- A backslash takes the character behind it along, if there is one.
        by_cases backslash : c = '\\'
        · match rest with
          | [] => exact ⟨[], .inr (.inl (by rw [backslash]; rfl))⟩
          | d :: rest =>
              obtain ⟨marks, whole⟩ := exists_marks quote rest
              refine ⟨.escaped d :: marks, ?_⟩
              rw [written_cons, backslash]
              rcases whole with rfl | rfl | ⟨rest, rfl⟩
              · exact .inl rfl
              · exact .inr (.inl rfl)
              · exact .inr (.inr ⟨rest, rfl⟩)
        · obtain ⟨marks, whole⟩ := exists_marks quote rest
          refine ⟨.plain c backslash closing :: marks, ?_⟩
          rw [written_cons]
          rcases whole with rfl | rfl | ⟨rest, rfl⟩
          · exact .inl rfl
          · exact .inr (.inl rfl)
          · exact .inr (.inr ⟨rest, rfl⟩)

end Mark

open RowAudit.Condition.Mark (written)

variable {quote : Char}

theorem Lexer.literalBody?_cons {c : Char} (notBackslash : c ≠ '\\')
    (rest : List Char) :
    literalBody? quote (c :: rest) =
      if c = quote then some ([], rest)
      else (literalBody? quote rest).map fun (body, after) =>
        (c :: body, after) := by
  rw [literalBody?]
  · intro same
    exact absurd same notBackslash
  · intro _ _ same
    exact absurd same notBackslash

theorem ne_backslash_of_isQuote (proper : isQuote quote = true) :
    quote ≠ '\\' := by
  intro same
  subst same
  cases proper

theorem Lexer.literalBody?_written (proper : isQuote quote = true)
    (marks : List (Mark quote)) (rest : List Char) :
    literalBody? quote (written marks ++ quote :: rest) =
      some (marks.map Mark.meaning, rest) := by
  induction marks with
  | nil =>
      rw [Mark.written_nil, List.nil_append,
        literalBody?_cons (ne_backslash_of_isQuote proper), if_pos rfl]
      rfl
  | cons mark marks ih =>
      rw [Mark.written_cons, List.append_assoc]
      cases mark with
      | plain c notBackslash notQuote =>
          rw [Mark.chars, List.singleton_append, literalBody?_cons notBackslash,
            if_neg notQuote, ih]
          rfl
      | escaped c =>
          rw [Mark.chars, List.cons_append, List.singleton_append,
            literalBody?, ih]
          rfl

theorem normalizeFrom_written (marks : List (Mark quote)) (rest : List Char) :
    normalizeFrom (.inside quote) (written marks ++ rest) =
      marks.flatMap Mark.form ++ normalizeFrom (.inside quote) rest := by
  induction marks with
  | nil => rfl
  | cons mark marks ih =>
      rw [Mark.written_cons, List.append_assoc, List.flatMap_cons,
        List.append_assoc, ← ih]
      cases mark with
      | plain c notBackslash notQuote =>
          rw [Mark.chars, List.singleton_append, normalizeFrom_cons,
            Place.after, if_neg notBackslash, if_neg notQuote]
          rfl
      | escaped c =>
          rw [Mark.chars, List.cons_append, List.singleton_append,
            normalizeFrom_cons, normalizeFrom_cons]
          rfl

end RowAudit.Condition
