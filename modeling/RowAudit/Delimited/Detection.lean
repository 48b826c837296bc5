import RowAudit.Delimited.Dialect
import RowAudit.Text.Blank

/-!
Guessing the delimiter of a text from its first lines: the candidate that stands
most often in the first of them wins, and one that stands equally often in all
of them beats any other.
-/

namespace RowAudit.Delimited

/-- The candidates, each of which needs a better score than those before it. -/
def candidates : List Mark :=
  [.tab, .comma, .semicolon, .pipe]

def countOutside (delimiter : Char) (inQuotes : Bool) : List Char → Nat
  | [] => 0
  | c :: rest =>
      if c = '"' then countOutside delimiter (!inQuotes) rest
      else if c = delimiter ∧
      !inQuotes then countOutside delimiter inQuotes rest + 1
      else countOutside delimiter inQuotes rest

def total (counts : List Nat) : Nat :=
  counts.foldl (· + ·) 0

/-- Whether the variance of the counts is below one. The variance, times the
squared number of counts, is that number times the total of the squares, less
the squared total. -/
def varyLittle (counts : List Nat) : Bool :=
  counts.length * total (counts.map fun count => count * count) <
    counts.length * counts.length + total counts * total counts

/--
The merit of a candidate that stands so often in each line. Pipes also separate
the choices inside conditions, so they gain nothing from standing equally often.
-/
def merit (candidate : Mark) : List Nat → Nat
  | [] => 0
  | first :: others =>
      if first = 0 then 0
      else if others.all (· = first) ∧ candidate ≠ .pipe then
        first * 1000 + if candidate = .tab then 100 else 0
      else if varyLittle (first :: others) then first * 100
      else first

def score (lines : List (List Char)) (candidate : Mark) : Nat :=
  merit candidate (lines.map (countOutside candidate.toChar false))

/-- The first candidate of the highest score; a comma if none scores. -/
def bestCandidate (lines : List (List Char)) : Mark :=
  (candidates.foldl
    (fun best candidate =>
      if best.2 < score lines candidate then (candidate, score lines candidate)
      else best)
    (Mark.comma, 0)).1

def sampleSize : Nat :=
  10

/-- The delimiter of a text with these lines, those that cannot be read left
out; there is none to tell where all are blank. -/
def detect? (lines : List (Option (List Char))) : Option Mark :=
  let sample :=
    ((lines.take sampleSize).filterMap id).filter fun line =>
      !line.all Text.isBlank
  if sample = [] then none else some (bestCandidate sample)

end RowAudit.Delimited
