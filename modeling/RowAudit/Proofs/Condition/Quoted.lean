import RowAudit.Condition.Assembly
import RowAudit.Proofs.Condition.Escape
import RowAudit.Proofs.Condition.Tokens

namespace RowAudit.Condition

open Lexer

/-- A text as a literal: between two quotes, with a backslash in front of every
backslash and every such quote. -/
def quotedText (quote : Char) (text : String) : String :=
  String.ofList (quote :: (escape quote text.toList ++ [quote]))

variable {quote : Char}

theorem quoted?_marks (proper : isQuote quote = true)
    (marks : List (Mark quote)) (rest : List Char) :
    quoted? (quote :: (Mark.written marks ++ quote :: rest)) =
      some (marks.map Mark.meaning, rest) := by
  have opens : (quote = '\'' || quote = '"') = true := by
    rcases isQuote_eq_true_iff.mp proper with rfl | rfl <;> rfl
  rw [quoted?, if_pos opens, literalBody?_written proper]

/-- A literal is an operand, whatever is written in it: no numeral and no
operator begins with a quote, and behind the last quote there is no further
choice. -/
theorem tokens?_marks (proper : isQuote quote = true)
    (marks : List (Mark quote)) :
    tokens? .operand (quote :: (Mark.written marks ++ [quote])) =
      some [.operand
        (.literal (.ofText (String.ofList (marks.map Mark.meaning))))] := by
  have quoted := quoted?_marks proper marks []
  have noChoices := choices?_eq_none_of_quoted quoted rfl
  have quotes := isQuote_eq_true_iff.mp proper
  have notNumeral : quote.isDigit = false ∧ quote ≠ '.' := by
    rcases quotes with rfl | rfl <;> decide
  have literal : operand? (quote :: (Mark.written marks ++ [quote])) =
      some (.literal (.ofText (String.ofList (marks.map Mark.meaning))),
        []) := by
    rw [operand?, noChoices, number?_eq_none notNumeral.1 notNumeral.2, quoted]
    rfl
  have notSpace :
      skipSpace (quote :: (Mark.written marks ++ [quote])) =
        quote :: (Mark.written marks ++ [quote]) := by
    rcases quotes with rfl | rfl <;> rfl
  have unsigned :
      unaryOperator? (quote :: (Mark.written marks ++ [quote])) = none := by
    rcases quotes with rfl | rfl <;> rfl
  rw [tokens?_operand (by decide) notSpace noChoices unsigned literal,
    tokens?_nil]
  rfl

theorem parse?_marks (proper : isQuote quote = true)
    (marks : List (Mark quote)) :
    Expr.parse? (String.ofList (quote :: (Mark.written marks ++ [quote]))) =
      some (.literal (.ofText (String.ofList (marks.map Mark.meaning)))) := by
  rw [Expr.parse?, String.toList_ofList, tokens?_marks proper]
  rfl

theorem parse?_escape (proper : isQuote quote = true) (text : String) :
    Expr.parse? (quotedText quote text) =
      some (.literal (.text (Text.lower text))) := by
  rw [quotedText, escape_eq_written, parse?_marks proper,
    meaning_marksOf proper, String.ofList_toList]
  rfl

/-- Every text can be written as a literal, in single quotes and in double
quotes, and is read in lower case. -/
theorem parse?_quotedText (text : String) :
    Expr.parse? (quotedText '\'' text) =
      some (.literal (.text (Text.lower text))) ∧
      Expr.parse? (quotedText '"' text) =
        some (.literal (.text (Text.lower text))) :=
  ⟨parse?_escape rfl text, parse?_escape rfl text⟩

example : quotedText '\'' "It's \"C:\\new\"|" = "'It\\'s \"C:\\\\new\"|'" := by
  decide

end RowAudit.Condition
