import RowAudit.Proofs.Sheet.Fit
import RowAudit.Proofs.Sheet.Records

/-!
When a text is not audited. There is one reason alone, and the text itself shows
it: one of its records says something where no header stands. Whatever the
rules, the types and the cells, all else is audited.
-/

namespace RowAudit

namespace Record

/-- Whether a field says something: it is there and not all white space. -/
def FilledAt (record : List String) (position : Nat) : Prop :=
  ∃ field, record[position]? = some field ∧ Text.allBlank field = false

/-- Whether a record says something where no header stands. -/
def Overhangs (width : Nat) (record : List String) : Prop :=
  ∃ position, width ≤ position ∧ FilledAt record position

/-- The first record that says something beyond the headers, and the last of its
fields that does. -/
structure FirstOverhang (width : Nat) (records : List (List String))
    (index position : Nat) : Prop where
  beyond : width ≤ position
  last : ∃ record, records[index]? = some record ∧ FilledAt record position ∧
    ∀ later, position < later → ¬ FilledAt record later
  first : ∀ earlier ∈ records.take index, ¬ Overhangs width earlier

variable {inferNumbers : Bool} {width position : Nat} {record : List String}

theorem filledAt_map_infer :
    Sheet.FilledAt (record.map (Cell.infer inferNumbers)) position ↔
      FilledAt record position := by
  simp only [Sheet.FilledAt, FilledAt, List.getElem?_map,
    Option.map_eq_some_iff]
  constructor
  · intro found
    obtain ⟨_, ⟨field, same, rfl⟩, filled⟩ := found
    exact ⟨field, same, by simpa [Cell.infer_eq_blank_iff] using filled⟩
  · intro found
    obtain ⟨field, same, filled⟩ := found
    exact ⟨_, ⟨field, same, rfl⟩, by simp [Cell.infer_eq_blank_iff, filled]⟩

theorem lt_length_row_iff (beyond : width ≤ position) :
    position < (Sheet.rowOfRecord inferNumbers width record).length ↔
      ∃ later, position ≤ later ∧ FilledAt record later := by
  rw [Sheet.rowOfRecord, Sheet.lt_length_fit_iff beyond]
  simp only [filledAt_map_infer]

theorem width_lt_length_row_iff :
    width < (Sheet.rowOfRecord inferNumbers width record).length ↔
      Overhangs width record :=
  lt_length_row_iff (Nat.le_refl width)

theorem length_row_eq_iff (beyond : width ≤ position) :
    (Sheet.rowOfRecord inferNumbers width record).length = position + 1 ↔
      FilledAt record position ∧ ∀ later, position < later →
        ¬ FilledAt record later := by
  have here :
      position < (Sheet.rowOfRecord inferNumbers width record).length ↔ _ :=
    lt_length_row_iff beyond
  have next :
      position + 1 < (Sheet.rowOfRecord inferNumbers width record).length ↔ _ :=
    lt_length_row_iff (Nat.le_succ_of_le beyond)
  constructor
  · intro length
    have behind (later : Nat) (after : position < later) :
        ¬ FilledAt record later := by
      intro filled
      have := next.mpr ⟨later, after, filled⟩
      omega
    obtain ⟨last, le, filled⟩ := here.mp (by omega)
    rcases Nat.eq_or_lt_of_le le with rfl | after
    · exact ⟨filled, behind⟩
    · exact absurd filled (behind last after)
  · intro last
    obtain ⟨filled, behind⟩ := last
    have within := here.mpr ⟨position, Nat.le_refl position, filled⟩
    have bounded := mt next.mp fun found =>
      let ⟨later, after, filledLater⟩ := found
      behind later after filledLater
    omega

end Record

namespace Sheet

section

variable {sheet : Sheet} {records : List (List String)} {inferNumbers : Bool}
  {width index : Nat} (headers : sheet.headers.length = width)
  (rows : sheet.rows = records.map (rowOfRecord inferNumbers width))
include headers rows

theorem fits_iff_not_overhangs :
    sheet.Fits ↔ ∀ record ∈ records, ¬ Record.Overhangs width record := by
  simp only [Fits, headers, rows, List.forall_mem_map, ← Nat.not_lt,
    Record.width_lt_length_row_iff]

theorem FirstWide.firstOverhang {cells : List Cell}
    (first : sheet.FirstWide index cells) :
    ∃ position, Record.FirstOverhang width records index position ∧
      position + 1 = cells.length := by
  obtain ⟨found, wide, earlier⟩ := first
  rw [headers] at wide
  rw [rows, List.getElem?_map] at found
  obtain ⟨record, located, rfl⟩ := Option.map_eq_some_iff.mp found
  obtain ⟨position, length⟩ :=
    Nat.exists_eq_add_one_of_ne_zero (Nat.ne_of_gt (Nat.zero_lt_of_lt wide))
  have beyond : width ≤ position := by omega
  refine ⟨position,
    ⟨beyond, ⟨record, located, (Record.length_row_eq_iff beyond).mp length⟩,
      ?_⟩,
    length.symm⟩
  intro other member overhangs
  have narrow := earlier (rowOfRecord inferNumbers width other) <| by
    rw [rows, ← List.map_take]
    exact List.mem_map_of_mem member
  rw [headers] at narrow
  exact absurd (Record.width_lt_length_row_iff.mpr overhangs)
    (Nat.not_lt.mpr narrow)

theorem exists_firstWide {position : Nat}
    (first : Record.FirstOverhang width records index position) :
    ∃ cells, sheet.FirstWide index cells ∧ cells.length = position + 1 := by
  obtain ⟨beyond, ⟨record, found, last⟩, earlier⟩ := first
  have length : (rowOfRecord inferNumbers width record).length = position + 1 :=
    (Record.length_row_eq_iff beyond).mpr last
  refine ⟨rowOfRecord inferNumbers width record, ⟨?_, ?_, ?_⟩, length⟩
  · rw [rows, List.getElem?_map, found, Option.map_some]
  · omega
  · intro row member
    rw [rows, ← List.map_take] at member
    obtain ⟨other, otherMember, rfl⟩ := List.mem_map.mp member
    rw [headers, ← Nat.not_lt, Record.width_lt_length_row_iff]
    exact earlier other otherMember

theorem audit_eq_error_iff_firstOverhang {settings : Settings}
    {typeMap : TypeMap} {rules : List Rule} {fault : Fault} :
    settings.audit sheet typeMap rules = .error fault ↔
      ∃ index position, Record.FirstOverhang width records index position ∧
        .malformedRow index (position + 1) width = fault := by
  rw [Settings.audit_eq_error_iff]
  constructor
  · intro found
    obtain ⟨index, cells, first, rfl⟩ := found
    obtain ⟨position, overhang, length⟩ := first.firstOverhang headers rows
    exact ⟨index, position, overhang, by rw [length, headers]⟩
  · intro found
    obtain ⟨index, position, first, rfl⟩ := found
    obtain ⟨cells, wide, length⟩ := exists_firstWide headers rows first
    exact ⟨index, cells, wide, by rw [length, headers]⟩

end

end Sheet

namespace Reading

variable {reading : Reading} {name text : String} {sheet : Sheet}

/-- The audit of a text fails just when a record overhangs the headers, and then
for the first that does; in every other case there is a summary. -/
theorem audit_fails_iff_overhangs
    (read : reading.sheetOfText name text = .ok sheet) :
    ∃ header records, reading.records text = .ok (header :: records) ∧
      sheet.headers.length = header.length ∧
      ∀ (settings : Settings) (typeMap : TypeMap) (rules : List Rule),
        ((∃ fault, settings.audit sheet typeMap rules = .error fault) ↔
          ∃ record ∈ records, Record.Overhangs header.length record) ∧
        (∀ fault, settings.audit sheet typeMap rules = .error fault ↔
          ∃ index position,
            Record.FirstOverhang header.length records index position ∧
            .malformedRow index (position + 1) header.length = fault) ∧
        ((∃ summary, settings.audit sheet typeMap rules = .ok summary) ↔
          ∀ record ∈ records, ¬ Record.Overhangs header.length record) := by
  obtain ⟨header, records, split, -, same⟩ := sheetOfText_eq_ok_iff.mp read
  have headers : sheet.headers.length = header.length := by
    rw [← same, List.length_map]
  have rows : sheet.rows =
      records.map (Sheet.rowOfRecord reading.inferNumbers header.length) := by
    rw [← same]
  refine ⟨header, records, split, headers, fun settings typeMap rules => ?_⟩
  have succeeds :
      (∃ summary, settings.audit sheet typeMap rules = .ok summary) ↔
      ∀ record ∈ records, ¬ Record.Overhangs header.length record :=
    Settings.exists_audit_eq_ok_iff.trans
      (Sheet.fits_iff_not_overhangs headers rows)
  refine ⟨?_, fun fault => Sheet.audit_eq_error_iff_firstOverhang headers rows,
    succeeds⟩
  have opposite : (∃ fault, settings.audit sheet typeMap rules = .error fault) ↔
      ¬ ∃ summary, settings.audit sheet typeMap rules = .ok summary := by
    cases settings.audit sheet typeMap rules <;> simp
  rw [opposite, succeeds]
  simp

theorem audit_fails_ragged :
    ∃ sheet,
      Reading.sheetOfText
        {} "Input" "Claim No,Amount\nC1,5,, \nC2,7,,x,\nC3,1,y" = .ok sheet ∧
      ∀ (settings : Settings) (typeMap : TypeMap) (rules : List Rule),
        settings.audit sheet typeMap rules = .error (.malformedRow 1 4 2) := by
  have known : Reading.records {} "Claim No,Amount\nC1,5,, \nC2,7,,x,\nC3,1,y" =
      .ok [["Claim No", "Amount"], ["C1", "5", "", " "],
        ["C2", "7", "", "x", ""],
        ["C3", "1", "y"]] := by decide +kernel
  have read : Reading.sheetOfText {} "Input" _ = .ok _ :=
    sheetOfText_eq_ok_iff.mpr
      ⟨_, _, known, ⟨"Amount", by decide, by decide +kernel⟩, rfl⟩
  obtain ⟨header, records, split, -, outcome⟩ := audit_fails_iff_overhangs read
  obtain ⟨rfl, rfl⟩ := List.cons.inj (Except.ok.inj (split.symm.trans known))
  refine ⟨_, read, fun settings typeMap rules => ?_⟩
  refine ((outcome settings typeMap rules).2.1 _).mpr
    ⟨1, 3, ⟨by decide, ⟨_, rfl, ?_, ?_⟩, ?_⟩, rfl⟩
  · exact ⟨"x", rfl, by decide +kernel⟩
  · intro later after filled
    obtain ⟨field, found, said⟩ := filled
    match later, after with
    | 4, _ =>
        obtain rfl := Option.some.inj found
        exact absurd said (by decide +kernel)
    | _ + 5, _ => cases found
  · intro earlier member overhangs
    obtain rfl := List.mem_singleton.mp member
    obtain ⟨position, beyond, field, found, said⟩ := overhangs
    match position, beyond with
    | 2, _ =>
        obtain rfl := Option.some.inj found
        exact absurd said (by decide +kernel)
    | 3, _ =>
        obtain rfl := Option.some.inj found
        exact absurd said (by decide +kernel)
    | _ + 4, _ => cases found

end Reading

end RowAudit
