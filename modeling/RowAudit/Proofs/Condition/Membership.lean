import RowAudit.Condition.Assembly
import RowAudit.Proofs.Condition.Dependence
import RowAudit.Proofs.Condition.Tokens
import RowAudit.Proofs.Text.FinalSigma
import RowAudit.Proofs.Text.Pieces

/-!
The condition that a column has one of several texts. The choices are read as
one text with pipes between them, lower-cased and cut at the pipes again; as no
word goes on behind a pipe, each choice comes out as it would on its own.
-/

namespace RowAudit.Condition

open Lexer
open Text (takeWhile_append_of_stops dropWhile_append_of_stops)

/-- One of several texts, as a condition lists it: a word, or anything else in
quotes that needs no escape. -/
inductive Choice where
  | word (text : String) (nonempty : text.toList ≠ [])
      (chars : ∀ c ∈ text.toList, isChoiceChar c = true)
  | quoted (text : String) (noPipe : '|' ∉ text.toList)
      (noEscape : '\\' ∉ text.toList)
      (noQuote : '\'' ∉ text.toList)

namespace Choice

def text : Choice → String
  | word text .. => text
  | quoted text .. => text

def written : Choice → List Char
  | word text .. => text.toList
  | quoted text .. => '\'' :: (text.toList ++ ['\''])

def lowered (choice : Choice) : List Char :=
  Text.lowerAfter [] choice.text.toList

theorem lowered_eq (choice : Choice) :
    choice.lowered = (Text.lower choice.text).toList := by
  rw [lowered, Text.lower, String.toList_ofList]

end Choice

def membership (op : BinaryOperator) (name : String) (choices : List Choice) :
    String :=
  String.ofList (name.toList ++ op.symbol.toList ++
    ((choices.map Choice.written).intersperse ['|']).flatten)

theorem ascii_of_isChoiceChar {c : Char} (choiceChar : isChoiceChar c = true) :
    c.toNat < 128 := by
  simp only [isChoiceChar, Bool.or_eq_true, decide_eq_true_eq] at choiceChar
  rcases choiceChar with (((alphanumeric | rfl) | rfl) | rfl) | rfl
  · exact ascii_of_isAlphanumeric alphanumeric
  all_goals decide

theorem of_isChoiceChar {c : Char} (choiceChar : isChoiceChar c = true) :
    isQuote c = false ∧ isSpace c = false ∧ c ≠ '|' ∧ c ≠ '=' :=
  Text.forall_ascii (p := fun c => isChoiceChar c = true →
      isQuote c = false ∧ isSpace c = false ∧ c ≠ '|' ∧ c ≠ '=')
    (by decide +kernel) c (ascii_of_isChoiceChar choiceChar) choiceChar

namespace Choice

theorem pipe_not_mem_text (choice : Choice) : '|' ∉ choice.text.toList := by
  intro member
  cases choice with
  | word text nonempty chars =>
      exact (of_isChoiceChar (chars _ member)).2.2.1 rfl
  | quoted text noPipe noEscape noQuote => exact noPipe member

theorem written_eq_cons (choice : Choice) :
    ∃ c cs, choice.written = c :: cs ∧ isSpace c = false ∧ c ≠ '|' ∧
      c ≠ '=' := by
  cases choice with
  | word text nonempty chars =>
      obtain ⟨c, cs, whole⟩ := List.exists_cons_of_ne_nil nonempty
      obtain ⟨-, notSpace, notPipe, notEqual⟩ :=
        of_isChoiceChar (chars c (whole ▸ List.mem_cons_self))
      exact ⟨c, cs, whole, notSpace, notPipe, notEqual⟩
  | quoted text noPipe noEscape noQuote =>
      exact ⟨'\'', _, rfl, rfl, by decide, by decide⟩

theorem choice?_written (choice : Choice) {rest : List Char}
    (stops : ∀ c ∈ rest.head?, isChoiceChar c = false) :
    choice? (choice.written ++ rest) = some (choice.text.toList, rest) := by
  cases choice with
  | word text nonempty chars =>
      have unquoted : quoted? (text.toList ++ rest) = none := by
        obtain ⟨c, cs, whole⟩ := List.exists_cons_of_ne_nil nonempty
        rw [whole]
        exact quoted?_eq_none
          (of_isChoiceChar (chars c (whole ▸ List.mem_cons_self))).1
      have taken := takeWhile_append_of_stops chars stops
      have dropped := dropWhile_append_of_stops chars stops
      simp only [choice?, written, Choice.text, unquoted, taken, dropped,
        if_neg nonempty]
  | quoted text noPipe noEscape noQuote =>
      have verbatim : escape '\'' text.toList = text.toList := by
        apply escape_eq_self
        rintro c member (rfl | rfl)
        · exact noEscape member
        · exact noQuote member
      have read : quoted?
          (written (quoted text noPipe noEscape noQuote) ++ rest) =
            some (text.toList, rest) := by
        have body : literalBody? '\''
            (escape '\'' text.toList ++ '\'' :: rest) =
              some (text.toList, rest) :=
          literalBody?_escape rfl text.toList rest
        rw [verbatim] at body
        rw [written, List.cons_append, List.append_assoc, List.singleton_append]
        exact body
      rw [choice?, read]
      rfl

end Choice

def furtherChoices (others : List Choice) : List Char :=
  (others.map Choice.written).flatMap ('|' :: ·)

theorem not_isChoiceChar_of_head_furtherChoices (others : List Choice) :
    ∀ c ∈ (furtherChoices others).head?, isChoiceChar c = false := by
  intro c first
  cases others with
  | nil => cases first
  | cons choice others =>
      obtain rfl := Option.some.inj first
      rfl

theorem afterPipe?_written (choice : Choice) (rest : List Char) :
    afterPipe? ('|' :: (choice.written ++ rest)) =
      some (choice.written ++ rest) := by
  obtain ⟨c, cs, whole, notSpace, notPipe, -⟩ := choice.written_eq_cons
  have pipe : skipSpace ('|' :: (c :: cs ++ rest)) = '|' :: (c :: cs ++ rest) :=
    rfl
  have here : skipSpace (c :: cs ++ rest) = c :: cs ++ rest :=
    List.dropWhile_cons_of_neg (by simp [notSpace])
  rw [whole, afterPipe?, pipe]
  simp only [here]
  split
  · next same => exact absurd (List.cons.inj same).1 notPipe
  · rfl

theorem moreChoices_of_choice? {cs next choice after : List Char}
    (pipe : afterPipe? cs = some next)
    (found : choice? next = some (choice, after)) :
    moreChoices cs =
      (choice :: (moreChoices after).1, (moreChoices after).2) := by
  rw [moreChoices]
  -- The matches here carry the equations that make the reader end, so they are
  -- split and not rewritten.
  split
  · next none =>
      exact absurd (none.symm.trans pipe) (Option.some_ne_none next).symm
  · next other pipe' =>
      obtain rfl := Option.some.inj (pipe.symm.trans pipe')
      split
      · next none =>
          exact absurd (none.symm.trans found) (Option.some_ne_none _).symm
      · next choice' after' found' =>
          obtain ⟨rfl, rfl⟩ :=
            Prod.mk.inj (Option.some.inj (found.symm.trans found'))
          rfl

theorem moreChoices_furtherChoices (others : List Choice) :
    moreChoices (furtherChoices others) =
      (others.map fun choice => choice.text.toList, []) := by
  induction others with
  | nil => exact moreChoices_of_noPipe rfl
  | cons choice others ih =>
      have read :=
        choice.choice?_written (not_isChoiceChar_of_head_furtherChoices others)
      have step :=
        moreChoices_of_choice?
          (afterPipe?_written choice (furtherChoices others)) read
      rw [ih] at step
      exact step

def joinedChoices (first : Choice) (others : List Choice) : String :=
  String.ofList (first.text.toList ++
    (others.map fun choice => choice.text.toList).flatMap ('|' :: ·))

variable {first second : Choice} {others : List Choice}

theorem choices?_written :
    choices? (first.written ++ furtherChoices (second :: others)) =
      some (.literal (.ofText (joinedChoices first (second :: others))),
        []) := by
  have read :=
    first.choice?_written
      (not_isChoiceChar_of_head_furtherChoices (second :: others))
  have more := moreChoices_furtherChoices (second :: others)
  rw [List.map_cons] at more
  simp only [choices?, read, more, Text.flatten_intersperse]
  rfl

theorem choices?_joinedChoices :
    (Value.ofText (joinedChoices first (second :: others))).choices? =
      some ((first :: second :: others).map fun choice =>
        Text.trimmed (Text.lower choice.text)) := by
  have whole : (Text.lower (joinedChoices first (second :: others))).toList =
      first.lowered ++ ((second :: others).map Choice.lowered).flatMap
        ('|' :: ·) := by
    rw [Text.lower, joinedChoices, String.toList_ofList, String.toList_ofList,
      Text.lowerAfter_piped, List.map_map]
    rfl
  have piped :
      '|' ∈ (Text.lower (joinedChoices first (second :: others))).toList := by
    rw [whole]
    exact List.mem_append_right _ List.mem_cons_self
  have pipeless :
      ∀ part ∈ first.lowered :: (second :: others).map Choice.lowered,
        '|' ∉ part := by
    rw [← List.map_cons]
    intro part member
    obtain ⟨choice, -, rfl⟩ := List.mem_map.mp member
    rw [choice.lowered_eq]
    exact Text.pipe_not_mem_lower choice.pipe_not_mem_text
  rw [Value.ofText, Value.choices?, if_pos piped, whole,
    Text.pieces_separated pipeless, ← List.map_cons, List.map_map]
  refine congrArg some (List.map_congr_left fun choice _ => ?_)
  rw [Text.trimmed, ← choice.lowered_eq]
  rfl

/-! The condition: a name, the operator, and the choices. -/

variable {name : String} {op : BinaryOperator}

theorem toList_membership :
    (membership op name (first :: others)).toList =
      name.toList ++
        (op.symbol.toList ++ (first.written ++ furtherChoices others)) := by
  rw [membership, String.toList_ofList, List.append_assoc, List.map_cons,
    Text.flatten_intersperse]
  rfl

theorem tokens?_written :
    tokens? .operand (first.written ++ furtherChoices (second :: others)) =
      some [.operand
        (.literal (.ofText (joinedChoices first (second :: others))))] := by
  obtain ⟨c, cs, start, notSpace, -⟩ := first.written_eq_cons
  have awaited :
      skipSpace (first.written ++ furtherChoices (second :: others)) =
      first.written ++ furtherChoices (second :: others) := by
    rw [start, List.cons_append]
    exact List.dropWhile_cons_of_neg (by simp [notSpace])
  have literal :
      token? .operand (first.written ++ furtherChoices (second :: others)) =
      some (.operand
        (.literal (.ofText (joinedChoices first (second :: others)))),
        .operator, []) := by
    rw [token?, choices?_written]
  rw [tokens?_of_token? awaited literal, tokens?_nil, Option.map_some]

theorem parse?_membership (isName : IsName name)
    (equality : op = .equal ∨ op = .unequal) :
    Expr.parse? (membership op name (first :: second :: others)) =
      some (.binary op (.column name)
        (.literal (.ofText (joinedChoices first (second :: others))))) := by
  have notEqual :
      ∀ c ∈ (first.written ++ furtherChoices (second :: others)).head?,
        c ≠ '=' := by
    obtain ⟨c, cs, start, -, -, notEqual⟩ := first.written_eq_cons
    intro d head
    rw [start] at head
    obtain rfl := Option.some.inj head
    exact notEqual
  rw [Expr.parse?, toList_membership,
    tokens?_name_equality isName equality notEqual, tokens?_written]
  rcases equality with rfl | rfl <;> rfl

theorem isChosen_lowered (text : String) (choices : List Choice) :
    isChosen (.ofText text)
      (choices.map fun choice => Text.trimmed (Text.lower choice.text)) =
      decide (∃ choice ∈ choices,
        Text.trimmed (Text.lower text) =
          Text.trimmed (Text.lower choice.text)) := by
  rw [isChosen, List.contains_eq_mem, decide_eq_decide, List.mem_map]
  constructor
  · rintro ⟨choice, member, same⟩
    exact ⟨choice, member, same.symm⟩
  · rintro ⟨choice, member, same⟩
    exact ⟨choice, member, same.symm⟩

/--
The condition that a column is among two or more choices is well formed. On a
row that has a text in the column, it holds just if the text is one of them but
for letter case and white space at the ends; and the condition that the column
is not among them holds otherwise.
-/
theorem evaluate_membership (isName : IsName name) (choices : List Choice)
    (several : 2 ≤ choices.length) :
    ∃ among notAmong,
      Expr.parse? (membership .equal name choices) = some among ∧
      Expr.parse? (membership .unequal name choices) = some notAmong ∧
      ∀ (row : Row) (text : String), row.get? name = some (.text text) →
        among.evaluate row = .ok (.bool (decide (∃ choice ∈ choices,
          Text.trimmed (Text.lower text) =
            Text.trimmed (Text.lower choice.text)))) ∧
        notAmong.evaluate row = .ok (.bool !(decide (∃ choice ∈ choices,
          Text.trimmed (Text.lower text) =
            Text.trimmed (Text.lower choice.text)))) := by
  obtain ⟨first, second, others, rfl⟩ : ∃ first second others,
    choices = first :: second :: others := by
    match choices, several with
    | first :: second :: others, _ => exact ⟨first, second, others, rfl⟩
  refine ⟨_, _, parse?_membership isName (.inl rfl),
    parse?_membership isName (.inr rfl), ?_⟩
  intro row text cell
  have column : (Expr.column name).evaluate row = .ok (.ofText text) := by
    rw [Expr.evaluate, cell]
    rfl
  have literal :
      (Expr.literal (.ofText (joinedChoices first (second :: others)))).evaluate
      row =
      .ok (.ofText (joinedChoices first (second :: others))) := rfl
  have asked := Expr.evaluate_of_choices column literal choices?_joinedChoices
  rwa [isChosen_lowered] at asked

def outcomes : List Choice :=
  [.quoted "Too late " (by decide) (by decide) (by decide),
    .word "-1.5/x" (by decide) (List.all_eq_true.mp (by decide)),
    .quoted "ΟΔΟΣ" (by decide) (by decide) (by decide)]

theorem evaluate_membership_outcomes :
    membership .equal "$status" outcomes =
      "$status=='Too late '|-1.5/x|'ΟΔΟΣ'" ∧
      ∃ among notAmong,
        Expr.parse? "$status=='Too late '|-1.5/x|'ΟΔΟΣ'" = some among ∧
        Expr.parse? "$status!='Too late '|-1.5/x|'ΟΔΟΣ'" = some notAmong ∧
        among.evaluate ⟨[("$status", .text " οδος\t")]⟩ = .ok (.bool true) ∧
        notAmong.evaluate ⟨[("$status", .text " οδος\t")]⟩ = .ok (.bool false) ∧
        among.evaluate ⟨[("$status", .text "-1.50/X")]⟩ =
          .ok (.bool false) := by
  have equal : membership .equal "$status" outcomes =
      "$status=='Too late '|-1.5/x|'ΟΔΟΣ'" := by
    decide +kernel
  have unequal :
      membership .unequal "$status" outcomes =
        "$status!='Too late '|-1.5/x|'ΟΔΟΣ'" := by
    decide +kernel
  obtain ⟨among, notAmong, parsed, negated, asked⟩ :=
    evaluate_membership (show IsName "$status" by decide +kernel) outcomes
      (by decide)
  rw [equal] at parsed
  rw [unequal] at negated
  have found :=
    asked ⟨[("$status", .text " οδος\t")]⟩ " οδος\t" (by decide +kernel)
  have missed :=
    asked ⟨[("$status", .text "-1.50/X")]⟩ "-1.50/X" (by decide +kernel)
  rw [decide_eq_true (by decide +kernel)] at found
  rw [decide_eq_false (by decide +kernel)] at missed
  exact ⟨equal, among, notAmong, parsed, negated, found.1, found.2, missed.1⟩

end RowAudit.Condition
