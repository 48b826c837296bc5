import RowAudit.Proofs.FirstFault
import RowAudit.Sheet.Reading

namespace RowAudit

theorem Cell.infer_eq_blank_iff {inferNumbers : Bool} {raw : String} :
    Cell.infer inferNumbers raw = .blank ↔ Text.allBlank raw = true := by
  rw [Cell.infer]
  by_cases blank : Text.allBlank raw = true
  · simp [blank]
  · rw [if_neg blank]
    constructor
    · intro none
      split at none
      · split at none <;> cases none
      · cases none
    · exact fun all => absurd all blank

namespace Reading

variable {reading : Reading} {name text : String} {sheet : Sheet}

/-- The records of a text by the delimiter that is asked for or that its lines
suggest, if all of them can be read as texts. -/
def records (reading : Reading) (text : String) :
    Except Fault (List (List String)) := do
  let lines := Text.pieces '\n' text.toList
  let delimiter ← reading.chosenDelimiter (lines.map some)
  (decodedRecords ⟨delimiter, reading.quote⟩ text.toUTF8.toList).mapM id

theorem ofRecords_eq_ok_iff {inferNumbers : Bool}
    {records : List (Except Fault (List String))} :
    Sheet.ofRecords inferNumbers name records = .ok sheet ↔
      ∃ header rows, records.mapM id = .ok (header :: rows) ∧
        (∃ field ∈ header, Text.trimmed field ≠ "") ∧
        ⟨name, header.map Text.trimmed,
          rows.map (Sheet.rowOfRecord inferNumbers header.length)⟩ = sheet := by
  cases records with
  | nil => simp [Sheet.ofRecords, pure, Except.pure]
  | cons first rest =>
      cases first with
      | error fault => simp [Sheet.ofRecords, bind, Except.bind]
      | ok header =>
          simp only [mapM_cons_eq_ok_iff, Sheet.ofRecords]
          by_cases nameless : (header.map Text.trimmed).all (· = "") = true
          · have none : ¬ ∃ field ∈ header, Text.trimmed field ≠ "" := by
              simpa using nameless
            rw [if_pos nameless]
            constructor
            · intro refused
              cases refused
            · intro found
              obtain ⟨_, _, ⟨_, _, first, -, split⟩, named, -⟩ := found
              obtain rfl := Except.ok.inj first
              obtain ⟨rfl, rfl⟩ := List.cons.inj split
              exact absurd named none
          · have named : ∃ field ∈ header, Text.trimmed field ≠ "" := by
              simpa using nameless
            rw [if_neg nameless]
            cases rest.mapM id with
            | error fault => simp
            | ok rows => simp [named, and_assoc]

/-- A text is read as a sheet when its first record has a header, and the other
records are the rows. -/
theorem sheetOfText_eq_ok_iff :
    reading.sheetOfText name text = .ok sheet ↔
      ∃ header rows, reading.records text = .ok (header :: rows) ∧
        (∃ field ∈ header, Text.trimmed field ≠ "") ∧
        ⟨name, header.map Text.trimmed,
          rows.map (Sheet.rowOfRecord reading.inferNumbers header.length)⟩ =
          sheet := by
  simp only [sheetOfText, records, sheetOfBytes]
  cases reading.chosenDelimiter ((Text.pieces '\n' text.toList).map some) with
  | error fault => simp [bind, Except.bind]
  | ok delimiter => exact ofRecords_eq_ok_iff

end Reading

end RowAudit
