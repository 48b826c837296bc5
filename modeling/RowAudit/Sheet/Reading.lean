import RowAudit.Delimited.Detection
import RowAudit.Delimited.Reader
import RowAudit.Digest.Sha256
import RowAudit.Fault
import RowAudit.Sheet
import RowAudit.Text.Decoding
import RowAudit.Text.Pieces

/-!
Reading sheets from delimited texts and files. The first record holds the
headers. Blank cells beyond the last header are left over from the export and
dropped; other cells there stay.
-/

namespace RowAudit

/-- How delimited text is to be read; without a delimiter it is guessed. -/
structure Reading where
  delimiter : Option Mark := none
  quote : Mark := .quotationMark
  inferNumbers : Bool := true

structure Source where
  file : String
  digest : String
  size : Nat
  format : String
  rows : Nat
  columns : Nat
  deriving DecidableEq

structure SheetFile where
  name : List UInt8
  content : List UInt8
  deriving DecidableEq

/-- A file name up to its last point, and what follows it; a point in front
begins no extension. -/
def splitFileName (name : List UInt8) : List UInt8 × Option (List UInt8) :=
  let point : UInt8 := 46
  match name.reverse.dropWhile (· ≠ point) with
  | [] | [_] => (name, none)
  | _ :: stem =>
      (stem.reverse, some (name.reverse.takeWhile (· ≠ point)).reverse)

namespace SheetFile

def sheetName (file : SheetFile) : String :=
  Text.decodeLossy (splitFileName file.name).1

end SheetFile

def Mark.formatName (delimiter : Mark) : String :=
  if delimiter = .tab then "tsv"
  else if delimiter = .comma then "csv"
  else if delimiter = .semicolon then "csv-semicolon"
  else if delimiter = .pipe then "psv"
  else "delimited"

namespace Sheet

def dropBlankEnd (cells : List Cell) : List Cell :=
  (cells.reverse.dropWhile (· = .blank)).reverse

/-- Drops the blank cells at the end that stand beyond the given width. -/
def fit (width : Nat) (cells : List Cell) : List Cell :=
  cells.take width ++ dropBlankEnd (cells.drop width)

def rowOfRecord (inferNumbers : Bool) (width : Nat) (record : List String) :
    List Cell :=
  fit width (record.map (Cell.infer inferNumbers))

def ofRecords (inferNumbers : Bool) (name : String)
    (records : List (Except Fault (List String))) : Except Fault Sheet :=
  match records with
  | [] => .error (.noHeaderRow name)
  | .error fault :: _ => .error fault
  | .ok first :: rest =>
      let headers := first.map Text.trimmed
      if headers.all (· = "") then .error (.noHeaderRow name)
      else
        match rest.mapM id with
        | .ok data =>
            .ok ⟨name, headers,
              data.map (rowOfRecord inferNumbers headers.length)⟩
        | .error fault => .error fault

end Sheet

namespace Reading

def chosenDelimiter (reading : Reading) (lines : List (Option (List Char))) :
    Except Fault Mark :=
  match reading.delimiter with
  | some delimiter => .ok delimiter
  | none =>
      match Delimited.detect? lines with
      | some delimiter => .ok delimiter
      | none => .error .noLines

def badField (symbols : Delimited.Symbols UInt8) (input : List UInt8)
    (record field : Nat) (bytes : List UInt8) : BadField :=
  let read :=
    input.take (input.length - (symbols.afterRecords input record).length)
  { record, field
    line := 1 + read.count symbols.lineFeed
    byte := read.length
    textBytes := Text.decodableLength bytes }

def decodeRecord (symbols : Delimited.Symbols UInt8) (input : List UInt8)
    (record : List (List UInt8)) (index : Nat) : Except Fault (List String) :=
  record.zipIdx.mapM fun (bytes, field) =>
    match Text.decode? bytes with
    | some text => .ok text
    | none => .error (.undecodable (badField symbols input index field bytes))

def decodedRecords (dialect : Delimited.Dialect) (content : List UInt8) :
    List (Except Fault (List String)) :=
  (dialect.symbols.records content).zipIdx.map fun (record, index) =>
    decodeRecord dialect.symbols content record index

def sheetOfBytes (reading : Reading) (delimiter : Mark) (name : String)
    (content : List UInt8) : Except Fault Sheet :=
  Sheet.ofRecords reading.inferNumbers name
    (decodedRecords ⟨delimiter, reading.quote⟩ content)

def sheetOfText (reading : Reading) (name text : String) :
    Except Fault Sheet := do
  let lines := Text.pieces '\n' text.toList
  let delimiter ← reading.chosenDelimiter (lines.map some)
  reading.sheetOfBytes delimiter name text.toUTF8.toList

def sheetOfFile (reading : Reading) (file : SheetFile) :
    Except Fault (Sheet × Source) := do
  let lines := Text.pieces 10 file.content
  let delimiter ← reading.chosenDelimiter <|
    lines.map fun line => (Text.decode? line).map String.toList
  let sheet ← reading.sheetOfBytes delimiter file.sheetName file.content
  return (sheet,
    { file := Text.decodeLossy file.name
      digest := "sha256:" ++ Digest.sha256 file.content
      size := file.content.length
      format := delimiter.formatName
      rows := sheet.rows.length
      columns := sheet.headers.length })

end Reading

end RowAudit
