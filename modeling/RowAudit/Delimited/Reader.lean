import RowAudit.Delimited.Dialect

/-!
Reading delimited text into records of fields. A line ends a record, an empty
line is none, and a quoted field runs to the next quote that is not doubled;
what follows such a quote belongs to the field as well. A quote that is left
open runs to the end of the text.
-/

namespace RowAudit.Delimited

variable {α : Type} [DecidableEq α]

inductive Stage where
  | recordStart
  | fieldStart
  | plain
  | quoted
  | quoteSeen
  deriving DecidableEq

inductive Move where
  | keep (next : Stage)
  | skip (next : Stage)
  | endField
  | endRecord
  deriving DecidableEq

def Symbols.isLineEnd (symbols : Symbols α) (c : α) : Bool :=
  c = symbols.carriageReturn || c = symbols.lineFeed

def Symbols.plainMove (symbols : Symbols α) (c : α) : Move :=
  if c = symbols.delimiter then .endField
  else if symbols.isLineEnd c then .endRecord
  else .keep .plain

/-- A quote opens a quoted field only where the field begins. -/
def Symbols.fieldMove (symbols : Symbols α) (c : α) : Move :=
  if c = symbols.quote then .skip .quoted else symbols.plainMove c

def Symbols.move (symbols : Symbols α) : Stage → α → Move
  | .recordStart, c =>
      if symbols.isLineEnd c then .skip .recordStart else symbols.fieldMove c
  | .fieldStart, c => symbols.fieldMove c
  | .plain, c => symbols.plainMove c
  | .quoted, c => if c = symbols.quote then .skip .quoteSeen else .keep .quoted
  | .quoteSeen, c =>
      if c = symbols.quote then .keep .quoted else symbols.plainMove c

/--
Reads on from a stage. The field under way and the fields before it are given
from the last back.
-/
def Symbols.readFrom (symbols : Symbols α) :
    Stage → List α → List (List α) → List α → List (List (List α))
  | .recordStart, _, _, [] => []
  | _, field, fields, [] => [(field.reverse :: fields).reverse]
  | stage, field, fields, c :: rest =>
      match symbols.move stage c with
      | .keep next => symbols.readFrom next (c :: field) fields rest
      | .skip next => symbols.readFrom next field fields rest
      | .endField =>
          symbols.readFrom .fieldStart [] (field.reverse :: fields) rest
      | .endRecord =>
          (field.reverse :: fields).reverse ::
            symbols.readFrom .recordStart [] [] rest

def Symbols.unmarked (symbols : Symbols α) (input : List α) : List α :=
  if symbols.byteOrderMark.isPrefixOf input then
    input.drop symbols.byteOrderMark.length else input

def Symbols.records (symbols : Symbols α) (input : List α) :
    List (List (List α)) :=
  symbols.readFrom .recordStart [] [] (symbols.unmarked input)

def Symbols.afterRecord (symbols : Symbols α) : Stage → List α → List α
  | _, [] => []
  | stage, c :: rest =>
      match symbols.move stage c with
      | .keep next | .skip next => symbols.afterRecord next rest
      | .endField => symbols.afterRecord .fieldStart rest
      | .endRecord => rest

def Symbols.afterRecords (symbols : Symbols α) (input : List α) : Nat → List α
  | 0 => input
  | 1 => symbols.afterRecord .recordStart (symbols.unmarked input)
  | count + 1 =>
      symbols.afterRecord .recordStart (symbols.afterRecords input count)

end RowAudit.Delimited
