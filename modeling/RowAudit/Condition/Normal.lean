import RowAudit.Text.Blank
import RowAudit.Text.Lowercase

/-!
The normal form of a condition: in lower case, and without white space outside
its quoted literals. A character behind a backslash keeps its case, since `\n`
and `\N` stand for different characters.
-/

namespace RowAudit.Condition

/-- Where in a condition a character stands, and the quote that ends the literal
it is in. -/
inductive Place where
  | outside
  | inside (quote : Char)
  | escaped (quote : Char)
  deriving DecidableEq

def isQuote (c : Char) : Bool :=
  c = '"' || c = '\''

def Place.after : Place → Char → Place
  | .outside, c => if isQuote c then .inside c else .outside
  | .inside quote, c =>
      if c = '\\' then .escaped quote else if c = quote then .outside
      else .inside quote
  | .escaped quote, _ => .inside quote

def Place.form : Place → Char → List Char
  | .outside, c => if Text.isBlank c then [] else Text.lowerChar c
  | .inside _, c => Text.lowerChar c
  | .escaped _, c => [c]

def normalizeFrom : Place → List Char → List Char
  | _, [] => []
  | place, c :: rest => place.form c ++ normalizeFrom (place.after c) rest

@[simp] theorem normalizeFrom_nil (place : Place) :
    normalizeFrom place [] = [] := by
  cases place <;> rfl

@[simp] theorem normalizeFrom_cons (place : Place) (c : Char)
    (rest : List Char) :
    normalizeFrom place (c :: rest) =
      place.form c ++ normalizeFrom (place.after c) rest := by
  cases place <;> rfl

def normalize (condition : String) : String :=
  String.ofList (normalizeFrom .outside condition.toList)

end RowAudit.Condition
