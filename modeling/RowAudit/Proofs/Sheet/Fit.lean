import Mathlib.Data.List.DropRight
import RowAudit.Proofs.Accounting

namespace RowAudit

namespace Sheet

structure FirstWide (sheet : Sheet) (index : Nat) (cells : List Cell) :
    Prop where
  found : sheet.rows[index]? = some cells
  wide : sheet.headers.length < cells.length
  earlier : ∀ other ∈ sheet.rows.take index, other.length ≤ sheet.headers.length

def Fits (sheet : Sheet) : Prop :=
  ∀ cells ∈ sheet.rows, cells.length ≤ sheet.headers.length

def FilledAt (cells : List Cell) (position : Nat) : Prop :=
  ∃ cell, cells[position]? = some cell ∧ cell ≠ .blank

variable {sheet : Sheet} {index width position : Nat} {cells : List Cell}

theorem find?_wide_eq_some_iff :
    (sheet.rows.zipIdx.find? fun (cells, _) =>
      sheet.headers.length < cells.length) =
        some (cells, index) ↔
      sheet.FirstWide index cells := by
  rw [List.find?_eq_some_iff_getElem]
  constructor
  · intro found
    obtain ⟨wide, position, bound, same, earlier⟩ := found
    rw [List.getElem_zipIdx, Nat.zero_add, Prod.mk.injEq] at same
    obtain ⟨rfl, rfl⟩ := same
    rw [List.length_zipIdx] at bound
    refine ⟨List.getElem?_eq_getElem bound, of_decide_eq_true wide, ?_⟩
    intro other member
    obtain ⟨before, limit, rfl⟩ := List.mem_take_iff_getElem.mp member
    have narrow := earlier before (by omega)
    simpa using narrow
  · intro first
    obtain ⟨bound, rfl⟩ := List.getElem?_eq_some_iff.mp first.found
    refine ⟨decide_eq_true first.wide, index, by simpa using bound, by simp, ?_⟩
    intro before limit
    have narrow :=
      first.earlier _ (List.mem_take_iff_getElem.mpr ⟨before, by omega, rfl⟩)
    simpa using narrow

theorem find?_wide_eq_none_iff :
    (sheet.rows.zipIdx.find? fun (cells, _) =>
      sheet.headers.length < cells.length) = none ↔
      sheet.Fits := by
  rw [List.find?_eq_none]
  constructor
  · intro narrow cells member
    obtain ⟨index, found⟩ := List.mem_iff_getElem?.mp member
    simpa using narrow (cells, index) (List.mem_zipIdx_iff_getElem?.mpr found)
  · intro fits row member
    obtain ⟨cells, index⟩ := row
    have found := List.mem_of_getElem? (List.mem_zipIdx_iff_getElem?.mp member)
    simpa using fits cells found

/-! Sheets with rows of the same widths under equally many headers. -/

section

variable {other : Sheet}

theorem Fits.of_widths (headers : sheet.headers.length = other.headers.length)
    (widths : sheet.rows.map List.length = other.rows.map List.length)
    (fits : sheet.Fits) : other.Fits := by
  have narrow :
      ∀ width ∈ sheet.rows.map List.length, width ≤ sheet.headers.length :=
    List.forall_mem_map.mpr fits
  rw [widths, headers] at narrow
  exact List.forall_mem_map.mp narrow

theorem FirstWide.of_widths
    (headers : sheet.headers.length = other.headers.length)
    (widths : sheet.rows.map List.length = other.rows.map List.length)
    (first : sheet.FirstWide index cells) :
    ∃ twin, other.FirstWide index twin ∧ twin.length = cells.length := by
  obtain ⟨found, wide, earlier⟩ := first
  have width : (other.rows.map List.length)[index]? = some cells.length := by
    rw [← widths, List.getElem?_map, found, Option.map_some]
  have narrow : ∀ width ∈ (sheet.rows.map List.length).take index,
      width ≤ sheet.headers.length := by
    rw [← List.map_take]
    exact List.forall_mem_map.mpr earlier
  rw [widths, headers, ← List.map_take] at narrow
  rw [List.getElem?_map, Option.map_eq_some_iff] at width
  obtain ⟨twin, placed, same⟩ := width
  refine ⟨twin, ⟨placed, ?_, List.forall_mem_map.mp narrow⟩, same⟩
  rwa [same, ← headers]

end

theorem filledAt_concat {last : Cell} :
    FilledAt (cells ++ [last]) position ↔
      FilledAt cells position ∨ (position = cells.length ∧ last ≠ .blank) := by
  rcases Nat.lt_trichotomy position cells.length with before | rfl | behind
  · simp [FilledAt, List.getElem?_append_left before, Nat.ne_of_lt before]
  · simp [FilledAt]
  · have absent : cells[position]? = none :=
      List.getElem?_eq_none (Nat.le_of_lt behind)
    have beyond : (cells ++ [last])[position]? = none := by
      apply List.getElem?_eq_none
      rw [List.length_append, List.length_singleton]
      exact behind
    simp [FilledAt, absent, beyond, Nat.ne_of_gt behind]

theorem FilledAt.lt_length (filled : FilledAt cells position) :
    position < cells.length := by
  obtain ⟨cell, found, -⟩ := filled
  exact (List.getElem?_eq_some_iff.mp found).1

theorem dropBlankEnd_concat (cells : List Cell) (last : Cell) :
    dropBlankEnd (cells ++ [last]) = if last = .blank then dropBlankEnd cells
      else cells ++ [last] := by
  have step :=
    List.rdropWhile_concat
      (fun cell : Cell => decide (cell = .blank)) cells last
  simp only [decide_eq_true_eq] at step
  exact step

theorem lt_length_dropBlankEnd_iff (cells : List Cell) (position : Nat) :
    position < (dropBlankEnd cells).length ↔
      ∃ later, position ≤ later ∧ FilledAt cells later := by
  induction cells using List.reverseRecOn with
  | nil => simp [dropBlankEnd, FilledAt]
  | append_singleton cells last ih =>
      simp only [filledAt_concat, dropBlankEnd_concat]
      by_cases blank : last = .blank
      · simpa [blank] using ih
      · rw [if_neg blank, List.length_append, List.length_singleton]
        constructor
        · intro within
          exact ⟨cells.length, Nat.le_of_lt_succ within, .inr ⟨rfl, blank⟩⟩
        · intro found
          obtain ⟨later, le, filled | ⟨rfl, -⟩⟩ := found
          · exact Nat.lt_succ_of_lt (Nat.lt_of_le_of_lt le filled.lt_length)
          · exact Nat.lt_succ_of_le le

theorem lt_length_fit_iff (beyond : width ≤ position) :
    position < (fit width cells).length ↔ ∃ later,
      position ≤ later ∧ FilledAt cells later := by
  obtain ⟨offset, rfl⟩ := Nat.exists_eq_add_of_le beyond
  have shifted (later : Nat) :
      FilledAt (cells.drop width) later ↔ FilledAt cells (width + later) := by
    rw [FilledAt, FilledAt, List.getElem?_drop]
  rw [fit, List.length_append, List.length_take]
  by_cases short : cells.length ≤ width
  · have cut : cells.drop width = [] := List.drop_eq_nil_of_le short
    constructor
    · intro within
      rw [cut, dropBlankEnd, List.reverse_nil, List.dropWhile_nil,
        List.reverse_nil, List.length_nil] at within
      omega
    · intro found
      obtain ⟨later, le, filled⟩ := found
      have := filled.lt_length
      omega
  · rw [Nat.min_eq_left (by omega), Nat.add_lt_add_iff_left,
      lt_length_dropBlankEnd_iff]
    constructor
    · intro found
      obtain ⟨later, le, filled⟩ := found
      exact ⟨width + later, Nat.add_le_add_left le width,
        (shifted later).mp filled⟩
    · intro found
      obtain ⟨later, le, filled⟩ := found
      obtain ⟨rest, rfl⟩ := Nat.exists_eq_add_of_le (Nat.le_trans beyond le)
      exact ⟨rest, Nat.le_of_add_le_add_left le, (shifted rest).mpr filled⟩

theorem getElem?_fit (within : position < width) :
    (fit width cells)[position]? = cells[position]? := by
  by_cases short : cells.length ≤ width
  · rw [fit, List.drop_eq_nil_of_le short, List.take_of_length_le short]
    exact congrArg (·[position]?) (List.append_nil cells)
  · rw [fit, List.getElem?_append_left, List.getElem?_take_of_lt within]
    rw [List.length_take]
    omega

theorem getElem?_rowOfRecord (within : position < width) (inferNumbers : Bool)
    (record : List String) :
    (rowOfRecord inferNumbers width record)[position]? =
      record[position]?.map (Cell.infer inferNumbers) := by
  rw [rowOfRecord, getElem?_fit within, List.getElem?_map]

end Sheet

namespace Settings

variable {settings : Settings} {sheet : Sheet} {fault : Fault} {rows : List Row}

theorem rows_eq_error_iff :
    settings.rows sheet = .error fault ↔
      ∃ index cells, sheet.FirstWide index cells ∧
        .malformedRow index cells.length sheet.headers.length = fault := by
  simp only [Settings.rows, ← Sheet.find?_wide_eq_some_iff]
  cases sheet.rows.zipIdx.find? _ with
  | none => simp
  | some found =>
      obtain ⟨cells, index⟩ := found
      simp

theorem rows_eq_ok_iff :
    settings.rows sheet = .ok rows ↔
      sheet.Fits ∧ sheet.rows.map (settings.rowOf sheet.headers) = rows := by
  simp only [Settings.rows, ← Sheet.find?_wide_eq_none_iff]
  cases sheet.rows.zipIdx.find? _ with
  | none => simp
  | some found =>
      obtain ⟨cells, index⟩ := found
      simp

theorem audit_eq_error_iff {typeMap : TypeMap} {rules : List Rule} :
    settings.audit sheet typeMap rules = .error fault ↔
      ∃ index cells, sheet.FirstWide index cells ∧
        .malformedRow index cells.length sheet.headers.length = fault := by
  rw [← rows_eq_error_iff, audit]
  cases settings.rows sheet with
  | error other => simp [bind, Except.bind]
  | ok rows => simp [bind, Except.bind, pure, Except.pure]

def summaryOf (settings : Settings) (sheet : Sheet) (typeMap : TypeMap)
    (rules : List Rule) : Summary :=
  Summary.merged sheet.rows.length <|
    settings.tally sheet.headers typeMap rules
      (sheet.rows.map (settings.rowOf sheet.headers))

theorem tally_summaryOf (settings : Settings) (sheet : Sheet)
    (typeMap : TypeMap) (rules : List Rule) (category : Category) :
    (settings.summaryOf sheet typeMap rules).tally category =
      settings.tally sheet.headers typeMap rules
        (sheet.rows.map (settings.rowOf sheet.headers)) category :=
  Summary.tally_merged category_of_mem_tally _ category

theorem violationsIn_summaryOf (settings : Settings) (sheet : Sheet)
    (typeMap : TypeMap) (rules : List Rule) (category : Category) :
    (settings.summaryOf sheet typeMap rules).violationsIn category =
      (settings.tally sheet.headers typeMap rules
        (sheet.rows.map (settings.rowOf sheet.headers)) category).violations :=
  congrArg Tally.violations
    (tally_summaryOf settings sheet typeMap rules category)

theorem audit_of_fits {typeMap : TypeMap} {rules : List Rule}
    (fits : sheet.Fits) :
    settings.audit sheet typeMap rules =
      .ok (settings.summaryOf sheet typeMap rules) := by
  refine audit_eq_ok_iff.mpr ⟨_, rows_eq_ok_iff.mpr ⟨fits, rfl⟩, ?_⟩
  rw [summaryOf, List.length_map]

theorem exists_audit_eq_ok_iff {typeMap : TypeMap} {rules : List Rule} :
    (∃ summary, settings.audit sheet typeMap rules = .ok summary) ↔
      sheet.Fits := by
  constructor
  · intro audited
    obtain ⟨summary, audited⟩ := audited
    obtain ⟨rows, read, -⟩ := audit_eq_ok_iff.mp audited
    exact (rows_eq_ok_iff.mp read).1
  · intro fits
    exact ⟨_, audit_of_fits fits⟩

end Settings

end RowAudit
