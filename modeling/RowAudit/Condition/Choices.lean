import RowAudit.Condition.Token

/-!
Literals in quotes, and lists of choices such as `paid|'not paid'`. Every reader
here gives what it read and the rest of the text, which is shorter.
-/

namespace RowAudit.Condition.Lexer

def isSpace (c : Char) : Bool :=
  c = ' ' || c = '\t' || c = '\r' || c = '\n'

def skipSpace (cs : List Char) : List Char :=
  cs.dropWhile isSpace

def isAlphanumeric (c : Char) : Bool :=
  c.isAlpha || c.isDigit

def isChoiceChar (c : Char) : Bool :=
  isAlphanumeric c || c = '_' || c = '.' || c = '-' || c = '/'

def isNameChar (c : Char) : Bool :=
  isAlphanumeric c || c = '_' || c = '$'

def isNameStart (c : Char) : Bool :=
  c.isAlpha || c = '_' || c = '$'

def unescape (c : Char) : Char :=
  if c = 'n' then '\n' else if c = 't' then '\t'
  else if c = 'r' then '\r' else c

/-- Reads a literal up to its closing quote; gives the text it stands for, and
what follows. -/
def literalBody? (quote : Char) : List Char → Option (List Char × List Char)
  | [] => none
  | ['\\'] => none
  | '\\' :: c :: rest =>
      (literalBody? quote rest).map fun (body, after) =>
        (unescape c :: body, after)
  | c :: rest =>
      if c = quote then some ([], rest)
      else (literalBody? quote rest).map fun (body, after) => (c :: body, after)

def quoted? : List Char → Option (List Char × List Char)
  | c :: rest => if c = '\'' || c = '"' then literalBody? c rest else none
  | [] => none

def choice? (cs : List Char) : Option (List Char × List Char) :=
  match quoted? cs with
  | some found => some found
  | none =>
      let word := cs.takeWhile isChoiceChar
      if word = [] then none else some (word, cs.dropWhile isChoiceChar)

theorem length_dropWhile_le (p : α → Bool) (cs : List α) :
    (cs.dropWhile p).length ≤ cs.length :=
  (List.dropWhile_suffix p).length_le

theorem length_skipSpace_le (cs : List Char) :
    (skipSpace cs).length ≤ cs.length :=
  length_dropWhile_le isSpace cs

theorem length_literalBody {quote : Char} {cs body after : List Char}
    (found : literalBody? quote cs = some (body, after)) :
    after.length < cs.length := by
  fun_induction literalBody? quote cs generalizing body with
  | case1 => simp at found
  | case2 => simp at found
  | case3 c rest ih =>
      obtain ⟨⟨inner, tail⟩, eq, same⟩ := Option.map_eq_some_iff.mp found
      obtain ⟨-, rfl⟩ := Prod.mk.inj same
      have := ih eq
      simp only [List.length_cons]
      omega
  | case4 c rest =>
      obtain ⟨-, rfl⟩ := Prod.mk.inj (Option.some.inj found)
      simp
  | case5 c rest _ _ _ ih =>
      obtain ⟨⟨inner, tail⟩, eq, same⟩ := Option.map_eq_some_iff.mp found
      obtain ⟨-, rfl⟩ := Prod.mk.inj same
      have := ih eq
      simp only [List.length_cons]
      omega

theorem length_quoted {cs body after : List Char}
    (found : quoted? cs = some (body, after)) : after.length < cs.length := by
  cases cs with
  | nil => simp [quoted?] at found
  | cons c rest =>
      simp only [quoted?] at found
      split at found
      · have := length_literalBody found
        simp only [List.length_cons]
        omega
      · simp at found

theorem length_dropWhile_lt {p : α → Bool} {cs : List α}
    (taken : cs.takeWhile p ≠ []) : (cs.dropWhile p).length < cs.length := by
  have whole :=
    congrArg List.length (List.takeWhile_append_dropWhile (p := p) (l := cs))
  have positive := List.length_pos_iff.mpr taken
  simp only [List.length_append] at whole
  omega

theorem length_choice {cs choice after : List Char}
    (found : choice? cs = some (choice, after)) : after.length < cs.length := by
  simp only [choice?] at found
  split at found
  · next eq =>
      obtain rfl := Option.some.inj found
      exact length_quoted eq
  · split at found
    · simp at found
    · next taken =>
        obtain ⟨-, rfl⟩ := Prod.mk.inj (Option.some.inj found)
        exact length_dropWhile_lt taken

def afterPipe? (cs : List Char) : Option (List Char) :=
  match skipSpace cs with
  | '|' :: rest =>
      match skipSpace rest with
      | '|' :: _ => none
      | after => some after
  | _ => none

theorem length_afterPipe {cs after : List Char}
    (found : afterPipe? cs = some after) : after.length < cs.length := by
  simp only [afterPipe?] at found
  split at found
  · next rest eq =>
      have whole := length_skipSpace_le cs
      have inner := length_skipSpace_le rest
      rw [eq, List.length_cons] at whole
      split at found
      · simp at found
      · obtain rfl := Option.some.inj found
        omega
  · simp at found

def moreChoices (cs : List Char) : List (List Char) × List Char :=
  match _pipe : afterPipe? cs with
  | none => ([], cs)
  | some next =>
      match _found : choice? next with
      | none => ([], cs)
      | some (choice, after) =>
          let (others, rest) := moreChoices after
          (choice :: others, rest)
termination_by cs.length
decreasing_by
  have := length_afterPipe _pipe
  have := length_choice _found
  omega

theorem length_moreChoices (cs : List Char) :
    (moreChoices cs).2.length ≤ cs.length := by
  fun_induction moreChoices cs with
  | case1 => exact Nat.le_refl _
  | case2 => exact Nat.le_refl _
  | case3 cs next pipe choice after found others rest eq ih =>
      have := length_afterPipe pipe
      have := length_choice found
      simp only [eq] at ih
      simp only
      omega

/-- Reads two or more choices as one text, in which pipes stand between them. -/
def choices? (cs : List Char) : Option (Expr × List Char) :=
  match choice? cs with
  | none => none
  | some (first, after) =>
      match moreChoices after with
      | ([], _) => none
      | (others, rest) =>
          let joined := ((first :: others).intersperse ['|']).flatten
          some (.literal (.ofText (String.ofList joined)), rest)

theorem length_choices {cs after : List Char} {e : Expr}
    (found : choices? cs = some (e, after)) : after.length < cs.length := by
  simp only [choices?] at found
  split at found
  · simp at found
  · next first middle eq =>
      have := length_choice eq
      split at found
      · simp at found
      · next others rest _ more =>
          obtain ⟨-, rfl⟩ := Prod.mk.inj (Option.some.inj found)
          have := length_moreChoices middle
          rw [more] at this
          simp only at this
          omega

end RowAudit.Condition.Lexer
