import RowAudit.Proofs.Report.Saving
import RowAudit.Proofs.Sheet.File
import RowAudit.Proofs.Sheet.Reread

/-!
The sheets of a saved report are read as the sheets that they were. They are
rows of the input below its headers, and every row that was read is written so
that it is read alike.
-/

namespace RowAudit

theorem splitFileName_append {stem extension : List UInt8}
    (nonempty : stem ≠ []) (pointless : 46 ∉ extension) :
    splitFileName (stem ++ 46 :: extension) = (stem, some extension) := by
  have reversed : (stem ++ 46 :: extension).reverse =
      extension.reverse ++ 46 :: stem.reverse := by simp
  have before : ∀ byte ∈ extension.reverse, decide (byte ≠ 46) = true := by
    intro byte member
    refine decide_eq_true fun same => pointless ?_
    exact same ▸ List.mem_reverse.mp member
  obtain ⟨last, front, turned⟩ :=
    List.exists_cons_of_ne_nil (mt List.reverse_eq_nil_iff.mp nonempty)
  have stays : (last :: front).reverse = stem := by
    rw [← turned, List.reverse_reverse]
  rw [splitFileName, reversed, List.dropWhile_append_of_pos before,
    List.takeWhile_append_of_pos before, turned]
  simp [stays]

theorem sheetName_append_csv {name : String} (nonempty : name ≠ "") :
    Text.decodeLossy (splitFileName (name ++ ".csv").toUTF8.toList).1 =
      name := by
  have extension : Text.encode ".csv".toList = 46 :: [99, 115, 118] := by
    decide +kernel
  have some : Text.encode name.toList ≠ [] := by
    obtain ⟨c, cs, whole⟩ :=
      List.exists_cons_of_ne_nil (mt String.toList_eq_nil_iff.mp nonempty)
    rw [whole, Text.encode_cons]
    exact List.append_ne_nil_of_left_ne_nil String.utf8EncodeChar_ne_nil _
  rw [Text.toList_toUTF8, String.toList_append, Text.encode_append, extension,
    splitFileName_append some (by decide), Text.decodeLossy_encode,
    String.ofList_toList]

namespace Report

variable {data sheet : Sheet} {summary : Summary} {category : Category}

theorem exists_selectRows_of_faultSheet?
    (found : faultSheet? data summary category = some sheet) :
    ∃ rows, data.selectRows category.sheetName rows = sheet := by
  rw [faultSheet?] at found
  split at found
  · cases found
  · exact ⟨_, Option.some.inj found⟩

theorem sheetNames_sublist (data : Sheet) (summary : Summary)
    (categories : List Category) :
    ((categories.filterMap (faultSheet? data summary)).map Sheet.name).Sublist
      (categories.map Category.sheetName) := by
  induction categories with
  | nil => exact List.Sublist.slnil
  | cons category rest ih =>
      cases found : faultSheet? data summary category with
      | none =>
          rw [List.filterMap_cons_none found]
          exact ih.cons category.sheetName
      | some sheet =>
          obtain ⟨rows, rfl⟩ := exists_selectRows_of_faultSheet? found
          rw [List.filterMap_cons_some found]
          exact ih.cons_cons category.sheetName

theorem fileNames_sublist (data : Sheet) (summary : Summary) :
    ((build data summary).files.map Prod.fst).Sublist
      ["Original.csv", "DataTypeErrors.csv", "ConditionErrors.csv",
        "summary.json"] := by
  have sheets :=
    (sheetNames_sublist data summary [.dataType, .condition]).map (· ++ ".csv")
  have names : (build data summary).files.map Prod.fst =
      "Original.csv" :: ((([Category.dataType, .condition].filterMap
        (faultSheet? data summary)).map Sheet.name).map (· ++ ".csv") ++
        ["summary.json"]) := by
    rw [files, build, List.map_append, List.map_map, List.map_map]
    rfl
  rw [names]
  exact (sheets.append (List.Sublist.refl ["summary.json"])).cons_cons
    "Original.csv"

theorem isFileName_of_mem_files :
    ∀ file ∈ (build data summary).files, IsFileName file.1 := by
  have all :
      ∀ name ∈ ["Original.csv", "DataTypeErrors.csv", "ConditionErrors.csv",
        "summary.json"],
      '/' ∉ name.toList ∧ name ≠ "" := by decide
  intro file member
  obtain ⟨single, nonempty⟩ :=
    all file.1 ((fileNames_sublist data summary).subset
      (List.mem_map_of_mem member))
  exact ⟨single, nonempty⟩

theorem nodup_fileNames (data : Sheet) (summary : Summary) :
    ((build data summary).files.map Prod.fst).Nodup :=
  (fileNames_sublist data summary).nodup (by decide)

/-- Every sheet of a report has the headers of the input, and rows of it. -/
theorem readable_of_mem_build {inferNumbers : Bool}
    (readable : data.Readable inferNumbers)
    (member : sheet ∈ (build data summary).sheets) :
    sheet.Readable inferNumbers ∧ sheet.headers = data.headers ∧
      sheet.name ≠ "" := by
  rcases List.mem_cons.mp member with rfl | fault
  · have named : "Original" ≠ "" := by decide
    exact ⟨readable.of_rows_subset rfl fun _ row => row, rfl, named⟩
  · obtain ⟨category, -, found⟩ := List.mem_filterMap.mp fault
    obtain ⟨rows, rfl⟩ := exists_selectRows_of_faultSheet? found
    have named : category.sheetName ≠ "" := by cases category <;> decide
    exact ⟨readable.of_rows_subset rfl (data.selectRows_subset _ rows),
      rfl, named⟩

/-- Whether the files that a saving tells of, other than the summary, stand in
the tree and are read as the sheets of the report: of the same names and
headers, and with cells that hold the same. -/
def ReadsBack (report : Report) (reading : Reading) (directory : String)
    (saved : Saving × FileTree) : Prop :=
  ∀ file ∈ saved.1.written, file.1 ≠ summaryName →
    ∃ sheet ∈ report.sheets, file.1 = sheet.name ++ ".csv" ∧
      ∃ content again source,
        saved.2.placeAt (FilePath.within directory file.1) =
          .file (.ok content) ∧
        reading.sheetOfFile ⟨file.1.toUTF8.toList, content⟩ =
          .ok (again, source) ∧
        sheet.Alike again

/-- A report on a sheet that was read between commas is saved so that it is read
back. -/
theorem build_readsBack {reading : Reading} {name text : String}
    (read : reading.sheetOfText name text = .ok data)
    (comma : reading.delimiter = some .comma)
    (quotationMark : reading.quote = .quotationMark)
    (unmarked : ∀ first ∈ data.headers.head?,
      first.toList.head? ≠ some '\ufeff') (summary : Summary)
    (directory : String) (tree : FileTree) :
    (build data summary).ReadsBack reading directory
      (((build data summary).save FileTree.access directory).run tree) := by
  intro file member notSummary
  obtain ⟨among, stands⟩ :=
    placeAt_of_mem_saved isFileName_of_mem_files
      (nodup_fileNames data summary) file member
  rcases List.mem_append.mp among with written | isSummary
  · obtain ⟨sheet, inReport, rfl⟩ := List.mem_map.mp written
    obtain ⟨readable, headers, named⟩ :=
      readable_of_mem_build (Reading.readable_of_sheetOfText read) inReport
    obtain ⟨again, reread, alike⟩ :=
      Reading.exists_alike_sheetOfText_toText readable comma quotationMark
      (headers ▸ unmarked)
    obtain ⟨source, file⟩ :=
      Reading.exists_sheetOfFile (sheetName_append_csv named) reread
    exact ⟨sheet, inReport, rfl, _, again, source, stands, file, alike⟩
  · rw [List.mem_singleton.mp isSummary] at notSummary
    exact absurd rfl notSummary

def fourRows : String :=
  "Claim No,\"Desc, full\"\n007,\"a \"\"b\"\"\nc\"\n-0,,over,,\n\"\"\n 1e3 ,x\n"

def oneViolation : Summary where
  total := 4
  types := ⟨4, 0⟩
  conditions := ⟨3, 1⟩
  invalid := 1
  violations :=
    [⟨1, none, "Desc, full", .blank, .condition "1" "present" "desc!=''"⟩]

theorem exists_build_readsBack_four_rows :
    ∃ data, Reading.sheetOfText { delimiter := some .comma } "claims" fourRows =
        .ok data ∧
      ∀ directory ∈ ["out", ""],
        (((build data oneViolation).save FileTree.access directory).run
            ⟨[], []⟩).1.written.map Prod.fst =
          ["Original.csv", "ConditionErrors.csv", "summary.json"] ∧
        (build data oneViolation).ReadsBack { delimiter := some .comma }
          directory
          (((build data oneViolation).save FileTree.access directory).run
            ⟨[], []⟩) := by
  have known : Reading.records { delimiter := some .comma } fourRows =
      .ok [["Claim No", "Desc, full"], ["007", "a \"b\"\nc"],
        ["-0", "", "over", "", ""], [""], [" 1e3 ", "x"]] := by
    decide +kernel
  have read : Reading.sheetOfText { delimiter := some .comma } "claims"
      fourRows = .ok _ :=
    Reading.sheetOfText_eq_ok_iff.mpr
      ⟨_, _, known, ⟨"Claim No", by decide, by decide +kernel⟩, rfl⟩
  refine ⟨_, read, ?_⟩
  intro directory member
  refine ⟨?_, build_readsBack read rfl rfl (by decide +kernel) oneViolation
    directory ⟨[], []⟩⟩
  rcases List.mem_cons.mp member with rfl | member
  · decide +kernel
  · obtain rfl := List.mem_singleton.mp member
    decide +kernel

end Report

end RowAudit
