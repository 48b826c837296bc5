import RowAudit.Proofs.Column
import RowAudit.Proofs.Sheet.Fit

namespace RowAudit

/-- Every row has a cell under each header, and no other cells. -/
def Sheet.Rectangular (sheet : Sheet) : Prop :=
  ∀ cells ∈ sheet.rows, cells.length = sheet.headers.length

theorem Sheet.Rectangular.fits {sheet : Sheet}
    (rectangular : sheet.Rectangular) : sheet.Fits :=
  fun cells member => Nat.le_of_eq (rectangular cells member)

def Column.Names (header key : String) : Prop :=
  key ≠ "" ∧ Column.normalize header = key

instance (header key : String) : Decidable (Column.Names header key) :=
  inferInstanceAs (Decidable (_ ∧ _))

namespace Settings

variable {settings : Settings} {headers : List String} {cells : List Cell}

private theorem filter_entry (settings : Settings) (cells : List Cell)
    (key header : String) (position : Nat) :
    ((if Column.normalize header = "" then none
      else some (Column.normalize header,
        settings.readCell (Column.normalize header)
          (cells.getD position .blank))).filter
          fun pair => Column.normalize pair.1 = key).map Prod.snd =
      if Column.Names header key then
        some (settings.readCell key (cells.getD position .blank))
      else none := by
  by_cases nameless : Column.normalize header = ""
  · have none : ¬ Column.Names header key :=
      fun names => names.1 (names.2.symm.trans nameless)
    rw [if_pos nameless, if_neg none]
    rfl
  · rw [if_neg nameless, Option.filter_some, Column.normalize_normalize]
    by_cases same : Column.normalize header = key
    · subst same
      rw [if_pos (decide_eq_true rfl), if_pos ⟨nameless, rfl⟩, Option.map_some]
    · rw [if_neg (by simpa using same), if_neg fun names => same names.2,
        Option.map_none]

theorem get?_rowOf (settings : Settings) (headers : List String)
    (cells : List Cell) (key : String) :
    (settings.rowOf headers cells).get? key =
      (headers.zipIdx.filter fun entry => Column.Names entry.1 key).getLast?.map
        fun entry => settings.readCell key (cells.getD entry.2 .blank) := by
  rw [rowOf, ColumnMap.get?_ofList, List.zipIdx_map, List.filterMap_map,
    List.filter_filterMap, ← List.getLast?_map, ← List.getLast?_map,
    List.map_filterMap, ← List.filterMap_eq_map, List.filterMap_filter]
  refine congrArg List.getLast? (congrArg (List.filterMap · headers.zipIdx) ?_)
  funext entry
  simpa using filter_entry settings cells key entry.1 entry.2

theorem zip_of_full (full : cells.length = headers.length) :
    headers.zip cells = headers.zipIdx.map fun entry =>
      (entry.1, cells.getD entry.2 .blank) := by
  apply List.ext_getElem
  · simp [full]
  · intro position left right
    have within : position < cells.length := by
      rw [List.length_zip, full, Nat.min_self, ← full] at left
      exact left
    simp [List.getElem?_eq_getElem within]

theorem get?_rowOf_of_full (full : cells.length = headers.length)
    (key : String) :
    (settings.rowOf headers cells).get? key =
      ((headers.zip cells).filter fun entry =>
        Column.Names entry.1 key).getLast?.map
        fun entry => settings.readCell key entry.2 := by
  rw [get?_rowOf, zip_of_full full, List.filter_map, List.getLast?_map,
    Option.map_map]
  rfl

end Settings

end RowAudit
