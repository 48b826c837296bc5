import Mathlib.Data.List.Forall2
import RowAudit.Proofs.Delimited.Written
import RowAudit.Proofs.Sheet.File
import RowAudit.Proofs.Sheet.Fit
import RowAudit.Proofs.Sheet.Retold
import RowAudit.Report

namespace RowAudit

namespace Text

@[simp] theorem trim_trim (cs : List Char) : trim (trim cs) = trim cs := by
  have start : (trim cs).dropWhile isBlank = trim cs := by
    obtain ⟨cut, whole⟩ : trim cs <+: cs.dropWhile isBlank :=
      List.rdropWhile_prefix _ _
    have first := List.head?_dropWhile_not isBlank cs
    rw [← whole] at first
    cases trimmed : trim cs with
    | nil => rfl
    | cons c rest =>
        rw [trimmed] at first
        exact List.dropWhile_cons_of_neg (Bool.eq_false_iff.mp first)
  have stop : List.rdropWhile isBlank (trim cs) = trim cs :=
    List.rdropWhile_idempotent _ _
  rw [trim, start]
  exact stop

@[simp] theorem trimmed_trimmed (s : String) :
    trimmed (trimmed s) = trimmed s := by
  rw [trimmed, trimmed, String.toList_ofList, trim_trim]

end Text

namespace Cell

/-- Whether two cells hold the same: nothing, or equal numbers, or one text. -/
inductive Alike : Cell → Cell → Prop
  | blank : Alike .blank .blank
  | number {x y : Double} (equal : x.equals y = true) :
      Alike (.number x) (.number y)
  | text (s : String) : Alike (.text s) (.text s)

theorem Alike.eq_blank_iff {left right : Cell} (alike : Alike left right) :
    left = .blank ↔ right = .blank := by
  cases alike <;> simp

variable {inferNumbers : Bool}

def reread (inferNumbers : Bool) (cell : Cell) : Cell :=
  infer inferNumbers cell.shown

theorem reread_text {raw : String} (filled : ¬ Text.allBlank raw = true)
    (noNumber : inferNumbers = true → plainNumber? raw = none) :
    reread inferNumbers (.text raw) = .text raw := by
  rw [reread, shown, infer, if_neg filled]
  cases inferNumbers with
  | false => rfl
  | true => rw [if_pos rfl, noNumber rfl]

theorem reread_number {raw : String} {value : Double}
    (read : plainNumber? raw = some value) :
    Alike (.number value) (reread true (.number value)) := by
  obtain ⟨negative, units, representable, rfl⟩ :=
    exists_finite_of_plainNumber? read
  have again :
      plainNumber? (Double.finite negative units representable).cellText =
      some (.finite (negative && units != 0) units representable) :=
    Double.plainNumber?_cellText representable
  have filled : ¬ Text.allBlank
      (Double.finite negative units representable).cellText = true := by
    intro blank
    rw [plainNumber?_of_allBlank blank] at again
    cases again
  rw [reread, shown, infer, if_neg filled, if_pos rfl, again]
  refine .number (Double.equals_finite_iff.mpr ⟨rfl, ?_⟩)
  cases negative <;> simp [Decidable.or_iff_not_imp_right]

/-- A cell that was read is written so that it is read alike. -/
theorem alike_reread (inferNumbers : Bool) (raw : String) :
    Alike (infer inferNumbers raw)
      (reread inferNumbers (infer inferNumbers raw)) := by
  by_cases blank : Text.allBlank raw = true
  · have nothing : infer inferNumbers raw = .blank :=
      infer_eq_blank_iff.mpr blank
    rw [nothing]
    exact .blank
  · rw [infer, if_neg blank]
    cases inferNumbers with
    | false =>
        have same : reread false (.text raw) = .text raw :=
          reread_text blank (absurd · Bool.false_ne_true)
        rw [if_neg Bool.false_ne_true, same]
        exact .text raw
    | true =>
        rw [if_pos rfl]
        cases read : plainNumber? raw with
        | none =>
            have same : reread true (.text raw) = .text raw :=
              reread_text blank fun _ => read
            dsimp only
            rw [same]
            exact .text raw
        | some value => exact reread_number read

end Cell

namespace Sheet

variable {width : Nat} {cells : List Cell}

theorem dropBlankEnd_dropBlankEnd (cells : List Cell) :
    dropBlankEnd (dropBlankEnd cells) = dropBlankEnd cells :=
  List.rdropWhile_idempotent _ _

theorem fit_fit (width : Nat) (cells : List Cell) :
    fit width (fit width cells) = fit width cells := by
  by_cases short : cells.length ≤ width
  · have whole : fit width cells = cells := by
      rw [fit, List.take_of_length_le short, List.drop_eq_nil_of_le short]
      exact List.append_nil cells
    rw [whole, whole]
  · have length : (cells.take width).length = width := by
      rw [List.length_take]
      omega
    rw [fit, fit, List.take_left' length, List.drop_left' length,
      dropBlankEnd_dropBlankEnd]

theorem dropBlankEnd_map {f : Cell → Cell}
    (keeps : ∀ cell ∈ cells, cell = .blank ↔ f cell = .blank) :
    dropBlankEnd (cells.map f) = (dropBlankEnd cells).map f := by
  induction cells using List.reverseRecOn with
  | nil => rfl
  | append_singleton cells last ih =>
      have earlier :=
        ih fun cell member => keeps cell (List.mem_append_left [last] member)
      have same :=
        keeps last (List.mem_append_right cells (List.mem_singleton_self last))
      rw [List.map_append, List.map_singleton, dropBlankEnd_concat,
        dropBlankEnd_concat, earlier]
      by_cases blank : last = .blank
      · rw [if_pos blank, if_pos (same.mp blank)]
      · rw [if_neg blank, if_neg (mt same.mpr blank), List.map_append,
          List.map_singleton]

theorem fit_map {f : Cell → Cell}
    (keeps : ∀ cell ∈ cells, cell = .blank ↔ f cell = .blank) :
    fit width (cells.map f) = (fit width cells).map f := by
  have behind : dropBlankEnd ((cells.drop width).map f) =
      (dropBlankEnd (cells.drop width)).map f :=
    dropBlankEnd_map fun cell member => keeps cell (List.mem_of_mem_drop member)
  rw [fit, fit, ← List.map_take, ← List.map_drop, behind, List.map_append]

theorem mem_of_mem_fit {cell : Cell} (member : cell ∈ fit width cells) :
    cell ∈ cells := by
  rcases List.mem_append.mp member with within | behind
  · exact List.mem_of_mem_take within
  · have dropped : dropBlankEnd (cells.drop width) <+: cells.drop width :=
      List.rdropWhile_prefix _ _
    exact List.mem_of_mem_drop (dropped.subset behind)

theorem fit_ne_nil (wide : 0 < width) (nonempty : cells ≠ []) :
    fit width cells ≠ [] := by
  have some : cells.take width ≠ [] := by
    rw [ne_eq, List.take_eq_nil_iff, not_or]
    exact ⟨Nat.ne_of_gt wide, nonempty⟩
  exact List.append_ne_nil_of_left_ne_nil some _

variable {inferNumbers : Bool} {record : List String}

theorem exists_infer_of_mem_rowOfRecord {cell : Cell}
    (member : cell ∈ rowOfRecord inferNumbers width record) :
    ∃ raw, Cell.infer inferNumbers raw = cell := by
  obtain ⟨raw, -, read⟩ := List.mem_map.mp (mem_of_mem_fit member)
  exact ⟨raw, read⟩

/-- A row that was read is read again as it was, cell by cell. -/
theorem forall₂_alike_rowOfRecord (inferNumbers : Bool) (width : Nat)
    (record : List String) :
    List.Forall₂ Cell.Alike (rowOfRecord inferNumbers width record)
      (rowOfRecord inferNumbers width
        ((rowOfRecord inferNumbers width record).map Cell.shown)) := by
  have alike : ∀ cell ∈ rowOfRecord inferNumbers width record,
      Cell.Alike cell (cell.reread inferNumbers) := by
    intro cell member
    obtain ⟨raw, rfl⟩ := exists_infer_of_mem_rowOfRecord member
    exact Cell.alike_reread inferNumbers raw
  have again : rowOfRecord inferNumbers width
      ((rowOfRecord inferNumbers width record).map Cell.shown) =
      (rowOfRecord inferNumbers width record).map
      (Cell.reread inferNumbers) := by
    rw [rowOfRecord, List.map_map]
    refine (fit_map fun cell member => (alike cell member).eq_blank_iff).trans
      ?_
    rw [rowOfRecord, fit_fit]
  rw [again, List.forall₂_map_right_iff, List.forall₂_same]
  exact alike

structure Readable (inferNumbers : Bool) (sheet : Sheet) : Prop where
  trimmed : ∀ header ∈ sheet.headers, Text.trimmed header = header
  named : ∃ header ∈ sheet.headers, header ≠ ""
  rows : ∀ row ∈ sheet.rows, ∃ record, record ≠ [] ∧
    rowOfRecord inferNumbers sheet.headers.length record = row

/-- Whether two sheets have the same name and headers, and in each place cells
that hold the same. -/
structure Alike (left right : Sheet) : Prop where
  name : left.name = right.name
  headers : left.headers = right.headers
  rows : List.Forall₂ (List.Forall₂ Cell.Alike) left.rows right.rows

variable {sheet : Sheet}

theorem Readable.row_ne_nil (readable : sheet.Readable inferNumbers)
    {row : List Cell} (member : row ∈ sheet.rows) : row ≠ [] := by
  obtain ⟨record, nonempty, rfl⟩ := readable.rows row member
  obtain ⟨header, among, -⟩ := readable.named
  exact fit_ne_nil (List.length_pos_of_mem among)
    (mt List.map_eq_nil_iff.mp nonempty)

theorem Readable.of_rows_subset (readable : sheet.Readable inferNumbers)
    {other : Sheet} (headers : other.headers = sheet.headers)
    (rows : other.rows ⊆ sheet.rows) : other.Readable inferNumbers where
  trimmed header member := readable.trimmed header (headers ▸ member)
  named := headers ▸ readable.named
  rows row member := headers ▸ readable.rows row (rows member)

theorem selectRows_subset (sheet : Sheet) (name : String) (indices : List Nat) :
    (sheet.selectRows name indices).rows ⊆ sheet.rows := by
  intro row member
  obtain ⟨index, -, found⟩ := List.mem_filterMap.mp member
  exact List.mem_of_getElem? found

end Sheet

namespace Reading

variable {reading : Reading} {name text : String} {sheet : Sheet}

theorem length_of_decodeRecord {symbols : Delimited.Symbols UInt8}
    {input : List UInt8} {fields : List (List UInt8)} {index : Nat}
    {record : List String}
    (decoded : decodeRecord symbols input fields index = .ok record) :
    record.length = fields.length := by
  rw [decodeRecord, mapM_eq_ok_iff] at decoded
  rw [← decoded.length_eq, List.length_zipIdx]

theorem ne_nil_of_mem_decodedRecords {dialect : Delimited.Dialect}
    {content : List UInt8} {record : List String}
    (member : .ok record ∈ decodedRecords dialect content) : record ≠ [] := by
  obtain ⟨⟨fields, index⟩, located, decoded⟩ := List.mem_map.mp member
  have nonempty := Delimited.Symbols.ne_nil_of_mem_readFrom
    (List.fst_mem_of_mem_zipIdx located)
  rw [← List.length_pos_iff, length_of_decodeRecord decoded]
  exact List.length_pos_iff.mpr nonempty

theorem ne_nil_of_mem_records {records : List (List String)}
    (read : reading.records text = .ok records) {record : List String}
    (member : record ∈ records) : record ≠ [] := by
  rw [Reading.records] at read
  cases chosen :
      reading.chosenDelimiter ((Text.pieces '\n' text.toList).map some) with
  | error fault =>
      rw [chosen] at read
      cases read
  | ok delimiter =>
      rw [chosen] at read
      have each := mapM_eq_ok_iff.mp read
      obtain ⟨index, within, rfl⟩ := List.getElem_of_mem member
      have decoded := each.get (each.length_eq ▸ within) within
      exact ne_nil_of_mem_decodedRecords (List.mem_iff_get.mpr ⟨_, decoded⟩)

theorem readable_of_sheetOfText
    (read : reading.sheetOfText name text = .ok sheet) :
    sheet.Readable reading.inferNumbers := by
  obtain ⟨header, rows, records, ⟨field, member, named⟩, rfl⟩ :=
    sheetOfText_eq_ok_iff.mp read
  refine ⟨?_, ⟨Text.trimmed field, List.mem_map_of_mem member, named⟩, ?_⟩
  · intro trimmed member
    obtain ⟨field, -, rfl⟩ := List.mem_map.mp member
    exact Text.trimmed_trimmed field
  · intro row member
    obtain ⟨record, among, rfl⟩ := List.mem_map.mp member
    refine ⟨record,
      ne_nil_of_mem_records records (List.mem_cons_of_mem header among), ?_⟩
    rw [List.length_map]

theorem records_toText (comma : reading.delimiter = some .comma)
    (quotationMark : reading.quote = .quotationMark)
    (headed : sheet.headers ≠ [])
    (unmarked : ∀ first ∈ sheet.headers.head?,
      first.toList.head? ≠ some '\ufeff')
    (nonempty : ∀ row ∈ sheet.rows, row ≠ []) :
    reading.records sheet.toText =
      .ok (sheet.headers :: sheet.rows.map fun cells =>
        cells.map Cell.shown) := by
  obtain ⟨first, others, headers⟩ := List.exists_cons_of_ne_nil headed
  have firstUnmarked : first.toList.head? ≠ some '\ufeff' :=
    unmarked first (headers ▸ rfl)
  have written :
      Delimited.Dialect.written.characters.records sheet.toText.toList =
        sheet.headers.map String.toList ::
          sheet.rows.map fun cells => cells.map fun cell =>
            cell.shown.toList := by
    rw [Sheet.toText, headers]
    apply Delimited.Dialect.written.records_write firstUnmarked
    intro record among
    obtain ⟨row, inRows, rfl⟩ := List.mem_map.mp among
    exact mt List.map_eq_nil_iff.mp (nonempty row inRows)
  have ascii : reading.IsAscii := by
    refine ⟨?_, quotationMark ▸ by decide⟩
    rintro delimiter asked
    rw [comma, Option.mem_some_iff] at asked
    exact asked ▸ by decide
  rw [records_of_isAscii ascii, chosenDelimiter, comma, quotationMark]
  refine (congrArg (fun records => Except.ok
    (records.map fun record : List (List Char) => record.map String.ofList))
    written).trans ?_
  simp [Function.comp_def]

/-- A sheet that was read is written as a text that is read as a sheet like
it. -/
theorem exists_alike_sheetOfText_toText
    (readable : sheet.Readable reading.inferNumbers)
    (comma : reading.delimiter = some .comma)
    (quotationMark : reading.quote = .quotationMark)
    (unmarked : ∀ first ∈ sheet.headers.head?,
      first.toList.head? ≠ some '\ufeff') :
    ∃ again, reading.sheetOfText sheet.name sheet.toText = .ok again ∧
      sheet.Alike again := by
  obtain ⟨header, member, named⟩ := readable.named
  have records :=
    records_toText comma quotationMark (List.ne_nil_of_mem member) unmarked
    fun row => readable.row_ne_nil
  have trimmed : sheet.headers.map Text.trimmed = sheet.headers :=
    (List.map_congr_left readable.trimmed).trans (List.map_id' _)
  refine ⟨_, sheetOfText_eq_ok_iff.mpr
    ⟨_, _, records, ⟨header, member, ?_⟩, rfl⟩, rfl, trimmed.symm,
    ?_⟩
  · rwa [readable.trimmed header member]
  · rw [List.map_map, List.forall₂_map_right_iff, List.forall₂_same]
    intro row among
    obtain ⟨record, -, rfl⟩ := readable.rows row among
    exact Sheet.forall₂_alike_rowOfRecord _ _ record

end Reading

end RowAudit
