namespace RowAudit

/-- A byte that separates or quotes fields. -/
abbrev Mark := UInt8

namespace Mark

def tab : Mark := 9

def quotationMark : Mark := 34

def comma : Mark := 44

def semicolon : Mark := 59

def pipe : Mark := 124

def toChar (mark : Mark) : Char :=
  Char.ofNat mark.toNat

end Mark

namespace Delimited

structure Dialect where
  delimiter : Mark
  quote : Mark
  deriving DecidableEq

structure Symbols (α : Type) where
  delimiter : α
  quote : α
  carriageReturn : α
  lineFeed : α
  byteOrderMark : List α

/-- Any byte can separate or quote, also one that is part of a character. -/
def Dialect.symbols (dialect : Dialect) : Symbols UInt8 where
  delimiter := dialect.delimiter
  quote := dialect.quote
  carriageReturn := 13
  lineFeed := 10
  byteOrderMark := [0xEF, 0xBB, 0xBF]

end Delimited

end RowAudit
