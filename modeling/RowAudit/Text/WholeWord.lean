import RowAudit.Text.Alphabetic
import RowAudit.Text.Mark
import RowAudit.Text.Newcomer
import RowAudit.Text.Numeric

namespace RowAudit.Text

/-- Letters, marks, decimal digits, connector punctuation and joiners make up
words, except those that are newer than the rule for words. -/
def isWordChar (c : Char) : Bool :=
  (alphabetics.holds c.toNat || decimalDigits.holds c.toNat ||
    connectors.holds c.toNat ||
    marks.holds c.toNat || joiners.holds c.toNat) && !newcomers.holds c.toNat

def isAlphanumeric (c : Char) : Bool :=
  alphabetics.holds c.toNat || decimalDigits.holds c.toNat ||
    otherNumbers.holds c.toNat

/-- A word boundary lies between two characters of which one alone belongs to a
word. -/
def isBoundary (before after : Option Char) : Bool :=
  before.any isWordChar != after.any isWordChar

/-- Whether `word` stands at the very start of `cs`, which follows `before`,
with boundaries at both ends. -/
def startsWithWord (word : List Char) (before : Option Char) (cs : List Char) :
    Bool :=
  word.isPrefixOf cs && isBoundary before cs.head? &&
    isBoundary (word.getLast?.or before) (cs.drop word.length).head?

def mentionsAfter (word : List Char) (before : Option Char) : List Char → Bool
  | [] => startsWithWord word before []
  | c :: rest =>
      startsWithWord word before (c :: rest) || mentionsAfter word (some c) rest

def mentions (cs word : List Char) : Bool :=
  mentionsAfter word none cs

def occursIn (part : List Char) : List Char → Bool
  | [] => part.isEmpty
  | c :: rest => part.isPrefixOf (c :: rest) || occursIn part rest

end RowAudit.Text
