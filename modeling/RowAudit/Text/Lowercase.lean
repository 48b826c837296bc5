import RowAudit.Text.CaseRun
import RowAudit.Text.Cased

/-!
Lower-casing. Each character has a lower-case form of its own, which is one
character except for the dotted capital I. A whole text differs from its
characters in one point: a capital sigma that ends a word becomes the final
sigma.
-/

namespace RowAudit.Text

def lowerChar (c : Char) : List Char :=
  if c = '\u0130' then ['i', '\u0307']
  else match CaseRun.lookup caseRuns c.toNat with
    | some image => [Char.ofNat image]
    | none => [c]

def lowerEach (cs : List Char) : List Char :=
  cs.flatMap lowerChar

@[simp] theorem lowerEach_nil : lowerEach [] = [] := rfl

@[simp] theorem lowerEach_cons (c : Char) (cs : List Char) :
    lowerEach (c :: cs) = lowerChar c ++ lowerEach cs := rfl

@[simp] theorem lowerEach_append (left right : List Char) :
    lowerEach (left ++ right) = lowerEach left ++ lowerEach right := by
  simp [lowerEach]

/-- Whether a cased letter comes next, looking through the characters that case
ignores. -/
def meetsCased : List Char → Bool
  | [] => false
  | c :: rest =>
      if caseIgnorables.holds c.toNat then meetsCased rest
      else casedLetters.holds c.toNat

/-- Lower-cases the text that follows `before`, which is given from its last
character back. -/
def lowerAfter (before : List Char) : List Char → List Char
  | [] => []
  | c :: rest =>
      (if c = 'Σ' then
        if meetsCased before && !meetsCased rest then ['ς'] else ['σ']
      else lowerChar c) ++ lowerAfter (c :: before) rest

def lower (s : String) : String :=
  String.ofList (lowerAfter [] s.toList)

end RowAudit.Text
