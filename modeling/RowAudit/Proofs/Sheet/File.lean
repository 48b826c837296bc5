import RowAudit.Proofs.Delimited.Bytes
import RowAudit.Proofs.Delimited.Detection
import RowAudit.Proofs.Sheet.Records

namespace RowAudit.Reading

open Text

structure IsAscii (reading : Reading) : Prop where
  delimiter : ∀ delimiter ∈ reading.delimiter, delimiter.IsAscii
  quote : reading.quote.IsAscii

theorem decodeRecord_encode (symbols : Delimited.Symbols UInt8)
    (input : List UInt8) (record : List (List Char)) (index : Nat) :
    decodeRecord symbols input (record.map encode) index =
      .ok (record.map String.ofList) := by
  rw [decodeRecord]
  generalize 0 = field
  induction record generalizing field with
  | nil => rfl
  | cons cs record ih =>
      rw [List.map_cons, List.zipIdx_cons, List.mapM_cons, ih (field + 1)]
      dsimp only
      rw [decode?_encode]
      rfl

theorem decodedRecords_encode {dialect : Delimited.Dialect}
    (ascii : dialect.IsAscii) (cs : List Char) :
    decodedRecords dialect (encode cs) =
      (dialect.characters.records cs).map fun record =>
        .ok (record.map String.ofList) := by
  rw [decodedRecords, ascii.records_encode, List.zipIdx_map, List.map_map]
  conv_rhs =>
    rw [← List.zipIdx_map_fst 0 (dialect.characters.records cs), List.map_map]
  apply List.map_congr_left
  intro pair _
  exact decodeRecord_encode _ _ pair.1 pair.2

theorem mapM_ok (records : List (List String)) :
    (records.map (Except.ok (ε := Fault))).mapM id = .ok records := by
  induction records with
  | nil => rfl
  | cons record rest ih =>
      rw [List.map_cons, List.mapM_cons, ih]
      rfl

theorem mapM_decodedRecords {dialect : Delimited.Dialect}
    (ascii : dialect.IsAscii) (text : String) :
    (decodedRecords dialect text.toUTF8.toList).mapM id =
      .ok ((dialect.characters.records text.toList).map
        fun record => record.map String.ofList) := by
  rw [toList_toUTF8, decodedRecords_encode ascii, ← mapM_ok, List.map_map]
  rfl

theorem isAscii_of_chosenDelimiter {reading : Reading} (ascii : reading.IsAscii)
    {lines : List (Option (List Char))} {delimiter : Mark}
    (chosen : reading.chosenDelimiter lines = .ok delimiter) :
    delimiter.IsAscii := by
  rw [chosenDelimiter] at chosen
  split at chosen
  · next asked =>
      obtain rfl := Except.ok.inj chosen
      exact ascii.delimiter _ asked
  · split at chosen
    · next guessed =>
        obtain rfl := Except.ok.inj chosen
        exact Delimited.isAscii_of_detect? guessed
    · cases chosen

theorem records_of_isAscii {reading : Reading} (ascii : reading.IsAscii)
    (text : String) :
    reading.records text =
      (reading.chosenDelimiter
        ((pieces '\n' text.toList).map some)).map fun delimiter =>
          ((⟨delimiter, reading.quote⟩ : Delimited.Dialect).characters.records
            text.toList).map fun record => record.map String.ofList := by
  rw [records]
  cases chosen :
      reading.chosenDelimiter ((pieces '\n' text.toList).map some) with
  | error fault => rfl
  | ok delimiter =>
      exact mapM_decodedRecords
        ⟨isAscii_of_chosenDelimiter ascii chosen, ascii.quote⟩ text

theorem map_decode?_pieces (cs : List Char) :
    (pieces 10 (encode cs)).map (fun line => (decode? line).map String.toList) =
      (pieces '\n' cs).map some := by
  rw [pieces_encode, List.map_map]
  apply List.map_congr_left
  intro line _
  rw [Function.comp_apply, decode?_encode, Option.map_some,
    String.toList_ofList]

theorem map_fst_sheetOfFile (reading : Reading) (fileName : List UInt8)
    (text : String) :
    (reading.sheetOfFile ⟨fileName, text.toUTF8.toList⟩).map Prod.fst =
      reading.sheetOfText (SheetFile.sheetName ⟨fileName, text.toUTF8.toList⟩)
        text := by
  rw [sheetOfFile, sheetOfText]
  dsimp only
  rw [toList_toUTF8, map_decode?_pieces]
  cases reading.chosenDelimiter ((pieces '\n' text.toList).map some) with
  | error fault => rfl
  | ok delimiter =>
      simp only [bind, Except.bind]
      cases reading.sheetOfBytes delimiter _ _ with
      | error fault => rfl
      | ok sheet => rfl

theorem exists_sheetOfFile {reading : Reading} {fileName : List UInt8}
    {name text : String} {sheet : Sheet}
    (stem : decodeLossy (splitFileName fileName).1 = name)
    (read : reading.sheetOfText name text = .ok sheet) :
    ∃ source, reading.sheetOfFile ⟨fileName, text.toUTF8.toList⟩ =
      .ok (sheet, source) := by
  have same := reading.map_fst_sheetOfFile fileName text
  rw [SheetFile.sheetName, stem, read] at same
  cases found : reading.sheetOfFile ⟨fileName, text.toUTF8.toList⟩ with
  | error fault =>
      rw [found] at same
      cases same
  | ok sheetAndSource =>
      rw [found] at same
      obtain rfl := Except.ok.inj same
      exact ⟨sheetAndSource.2, rfl⟩

end RowAudit.Reading
