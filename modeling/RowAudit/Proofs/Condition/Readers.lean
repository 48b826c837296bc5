import Mathlib.Data.List.TakeWhile
import RowAudit.Proofs.Condition.Leaves

namespace RowAudit.Condition.Lexer

theorem suffix_literalBody {quote : Char} {cs body after : List Char}
    (found : literalBody? quote cs = some (body, after)) : after <:+ cs := by
  fun_induction literalBody? quote cs generalizing body with
  | case1 => cases found
  | case2 => cases found
  | case3 c rest ih =>
      obtain ⟨⟨inner, tail⟩, read, same⟩ := Option.map_eq_some_iff.mp found
      obtain ⟨-, rfl⟩ := Prod.mk.inj same
      exact ((ih read).trans (List.suffix_cons c rest)).trans
        (List.suffix_cons '\\' _)
  | case4 c rest =>
      obtain ⟨-, rfl⟩ := Prod.mk.inj (Option.some.inj found)
      exact List.suffix_cons _ _
  | case5 c rest _ _ _ ih =>
      obtain ⟨⟨inner, tail⟩, read, same⟩ := Option.map_eq_some_iff.mp found
      obtain ⟨-, rfl⟩ := Prod.mk.inj same
      exact (ih read).trans (List.suffix_cons _ _)

theorem suffix_quoted {cs body after : List Char}
    (found : quoted? cs = some (body, after)) : after <:+ cs := by
  cases cs with
  | nil => cases found
  | cons c rest =>
      simp only [quoted?] at found
      split at found
      · exact (suffix_literalBody found).trans (List.suffix_cons c rest)
      · cases found

theorem suffix_choice {cs choice after : List Char}
    (found : choice? cs = some (choice, after)) : after <:+ cs := by
  simp only [choice?] at found
  split at found
  · next quoted =>
      obtain rfl := Option.some.inj found
      exact suffix_quoted quoted
  · split at found
    · cases found
    · obtain ⟨-, rfl⟩ := Prod.mk.inj (Option.some.inj found)
      exact List.dropWhile_suffix _

theorem suffix_afterPipe {cs after : List Char}
    (found : afterPipe? cs = some after) : after <:+ cs := by
  simp only [afterPipe?] at found
  split at found
  · next rest pipe =>
      have behind : rest <:+ cs := by
        refine (List.suffix_cons '|' rest).trans ?_
        rw [← pipe]
        exact List.dropWhile_suffix _
      split at found
      · cases found
      · obtain rfl := Option.some.inj found
        exact (List.dropWhile_suffix _).trans behind
  · cases found

theorem suffix_moreChoices (cs : List Char) : (moreChoices cs).2 <:+ cs := by
  fun_induction moreChoices cs with
  | case1 => exact List.suffix_rfl
  | case2 => exact List.suffix_rfl
  | case3 cs next pipe choice after found others rest more ih =>
      rw [more] at ih
      exact (ih.trans (suffix_choice found)).trans (suffix_afterPipe pipe)

theorem suffix_choices {cs after : List Char} {e : Expr}
    (found : choices? cs = some (e, after)) : after <:+ cs := by
  simp only [choices?] at found
  split at found
  · cases found
  · next first middle choice =>
      split at found
      · cases found
      · next others rest _ more =>
          obtain ⟨-, rfl⟩ := Prod.mk.inj (Option.some.inj found)
          have left := suffix_moreChoices middle
          rw [more] at left
          exact left.trans (suffix_choice choice)

theorem suffix_number {cs after : List Char} {e : Expr}
    (found : number? cs = some (e, after)) : after <:+ cs := by
  simp only [number?] at found
  split at found
  · cases found
  · obtain ⟨parts, -, same⟩ := Option.map_eq_some_iff.mp found
    obtain ⟨-, rfl⟩ := Prod.mk.inj same
    exact ⟨_, splitNumeral_append cs⟩

theorem name?_eq_some {cs after : List Char} {e : Expr}
    (found : name? cs = some (e, after)) :
    ∃ word, cs = word ++ after ∧ e = named word ∧
      word.head?.any isNameStart = true ∧
      ∀ c ∈ word, isNameChar c = true := by
  simp only [name?] at found
  split at found
  · next start =>
      obtain ⟨rfl, rfl⟩ := Prod.mk.inj (Option.some.inj found)
      refine ⟨cs.takeWhile isNameChar,
        List.takeWhile_append_dropWhile.symm, rfl, ?_,
        fun c member => List.mem_takeWhile_imp member⟩
      cases cs with
      | nil => cases start
      | cons c rest =>
          have first : isNameStart c = true := start
          rw [List.takeWhile_cons_of_pos (isNameChar_of_isNameStart first)]
          exact first
  · cases found

theorem suffix_operand {cs after : List Char} {e : Expr}
    (found : operand? cs = some (e, after)) : after <:+ cs := by
  simp only [operand?, Option.or_eq_some_iff] at found
  rcases found with chosen | ⟨-, counted | ⟨-, spelt | ⟨-, meant⟩⟩⟩
  · exact suffix_choices chosen
  · exact suffix_number counted
  · obtain ⟨⟨body, rest⟩, quoted, same⟩ := Option.map_eq_some_iff.mp spelt
    obtain ⟨-, rfl⟩ := Prod.mk.inj same
    exact suffix_quoted quoted
  · obtain ⟨word, rfl, -⟩ := name?_eq_some meant
    exact List.suffix_append word after

theorem operand?_eq_some {cs after : List Char} {e : Expr}
    (found : operand? cs = some (e, after)) :
    (∃ text, e = .literal (.ofText text)) ∨
      (∃ value, e = .literal (.number value)) ∨
      ∃ word, e = named word := by
  simp only [operand?, Option.or_eq_some_iff] at found
  rcases found with chosen | ⟨-, counted | ⟨-, spelt | ⟨-, meant⟩⟩⟩
  · simp only [choices?] at chosen
    split at chosen
    · cases chosen
    · split at chosen
      · cases chosen
      · cases chosen
        exact .inl ⟨_, rfl⟩
  · simp only [number?] at counted
    split at counted
    · cases counted
    · obtain ⟨parts, -, same⟩ := Option.map_eq_some_iff.mp counted
      cases same
      exact .inr (.inl ⟨_, rfl⟩)
  · obtain ⟨quoted, -, same⟩ := Option.map_eq_some_iff.mp spelt
    cases same
    exact .inl ⟨_, rfl⟩
  · obtain ⟨word, -, meaning, -⟩ := name?_eq_some meant
    exact .inr (.inr ⟨word, meaning⟩)

theorem name?_of_operand {cs after : List Char} {e : Expr}
    (found : operand? cs = some (e, after)) {name : String}
    (column : name ∈ e.columns) : name? cs = some (e, after) := by
  simp only [operand?, Option.or_eq_some_iff] at found
  rcases found with chosen | ⟨-, counted | ⟨-, spelt | ⟨-, meant⟩⟩⟩
  · simp only [choices?] at chosen
    split at chosen
    · cases chosen
    · split at chosen
      · cases chosen
      · cases chosen
        cases column
  · simp only [number?] at counted
    split at counted
    · cases counted
    · obtain ⟨parts, -, same⟩ := Option.map_eq_some_iff.mp counted
      cases same
      cases column
  · obtain ⟨quoted, -, same⟩ := Option.map_eq_some_iff.mp spelt
    cases same
    cases column
  · exact meant

end RowAudit.Condition.Lexer
