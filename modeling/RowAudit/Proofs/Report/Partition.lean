import Mathlib.Data.Nat.Nth
import RowAudit.Proofs.Accounting

/-!
The report splits the input without loss. The rows of an error sheet are the
rows of the input that carry a violation of its category, one after another, and
the sheet is there just when the tally of the category counts an invalid row.
-/

namespace RowAudit

namespace Sheet

variable {sheet : Sheet}

theorem map_some_selectRows (name : String) {indices : List Nat}
    (bounded : ∀ index ∈ indices, index < sheet.rows.length) :
    (sheet.selectRows name indices).rows.map some =
      indices.map (sheet.rows[·]?) := by
  unfold selectRows
  induction indices with
  | nil => rfl
  | cons index rest ih =>
      obtain ⟨here, later⟩ := List.forall_mem_cons.mp bounded
      have found := List.getElem?_eq_getElem here
      rw [List.filterMap_cons_some found, List.map_cons, ih later,
        List.map_cons, found]

end Sheet

namespace Summary

variable {summary : Summary} {category : Category} {count : Nat}

def AtFault (summary : Summary) (category : Category) (index : Nat) : Prop :=
  ∃ violation ∈ summary.violations,
    violation.category = category ∧ violation.row = index

theorem nth_atFault {k : Nat} (within : k < (summary.rowsIn category).length) :
    Nat.nth (summary.AtFault category) k = (summary.rowsIn category)[k] := by
  have members (index : Nat) :
      index ∈ summary.rowsIn category ↔ summary.AtFault category index :=
    mem_rowsIn
  have finite : (Set.ofPred (summary.AtFault category)).Finite := by
    apply (summary.rowsIn category).toFinset.finite_toSet.subset
    intro index fault
    exact List.mem_toFinset.mpr ((members index).mpr fault)
  have sorted : finite.toFinset.sort = summary.rowsIn category := by
    apply eq_of_ascending
    · exact Finset.sortedLT_sort _ |>.pairwise
    · exact pairwise_lt_rowsIn summary category
    · intro index
      rw [Finset.mem_sort, Set.Finite.mem_toFinset, members]
      rfl
  rw [Nat.nth_eq_getD_sort finite, sorted, List.getD_eq_getElem _ _ within]

theorem Sound.lt_of_mem_rowsIn (sound : summary.Sound count) {index : Nat}
    (member : index ∈ summary.rowsIn category) : index < count := by
  obtain ⟨violation, reported, -, rfl⟩ := mem_rowsIn.mp member
  exact sound.accounts.bounded violation reported

end Summary

namespace Report

variable {data : Sheet} {summary : Summary} {category : Category}

/-- What the sheet of a category has to hold: of the rows at fault, the `k`-th
in its `k`-th place. -/
structure Collects (data : Sheet) (summary : Summary) (category : Category)
    (sheet : Sheet) : Prop where
  name : sheet.name = category.sheetName
  headers : sheet.headers = data.headers
  length : sheet.rows.length = (summary.count category).invalid
  rows : ∀ k < (summary.count category).invalid, ∃ cells,
    data.rows[Nat.nth (summary.AtFault category) k]? = some cells ∧
    sheet.rows[k]? = some cells

theorem collects_selectRows (sound : summary.Sound data.rows.length)
    (category : Category) :
    Collects data summary category
      (data.selectRows category.sheetName (summary.rowsIn category)) := by
  have bounded : ∀ index ∈ summary.rowsIn category, index < data.rows.length :=
    fun _ member => sound.lt_of_mem_rowsIn member
  have selected := data.map_some_selectRows category.sheetName bounded
  refine ⟨rfl, rfl, ?_, ?_⟩
  · have lengths := congrArg List.length selected
    rw [List.length_map, List.length_map, sound.length_rowsIn] at lengths
    exact lengths
  · intro k within
    rw [← sound.length_rowsIn] at within
    have there := bounded _ (List.getElem_mem within)
    refine ⟨data.rows[(summary.rowsIn category)[k]], ?_, ?_⟩
    · rw [Summary.nth_atFault within, List.getElem?_eq_getElem there]
    · have place := congrArg (·[k]?) selected
      simp only [List.getElem?_map, List.getElem?_eq_getElem within,
        List.getElem?_eq_getElem there, Option.map_some] at place
      exact Option.map_injective (Option.some_injective _) place

theorem faultSheet?_eq (sound : summary.Sound data.rows.length)
    (category : Category) :
    faultSheet? data summary category =
      if 0 < (summary.count category).invalid then
        some (data.selectRows category.sheetName (summary.rowsIn category))
      else none := by
  rw [← sound.length_rowsIn, faultSheet?]
  cases summary.rowsIn category with
  | nil => rfl
  | cons first others => rfl

/-- The first sheet is the input, and those behind it collect the categories
that count invalid rows. -/
theorem build_partitions {settings : Settings} {typeMap : TypeMap}
    {rules : List Rule}
    (audited : settings.audit data typeMap rules = .ok summary) :
    ∃ errorSheets,
      (build data summary).sheets = { data with name := "Original" } ::
      errorSheets ∧
      List.Forall₂ (Collects data summary)
        ([Category.dataType, .condition].filter fun category =>
          0 < (summary.count category).invalid)
        errorSheets := by
  have sound := Settings.audit_sound audited
  refine ⟨_, rfl, ?_⟩
  induction [Category.dataType, Category.condition] with
  | nil => exact .nil
  | cons category rest ih =>
      have shown := faultSheet?_eq sound category
      by_cases some : 0 < (summary.count category).invalid
      · rw [if_pos some] at shown
        rw [List.filterMap_cons_some shown,
          List.filter_cons_of_pos (by simpa using some)]
        exact .cons (collects_selectRows sound category) ih
      · rw [if_neg some] at shown
        rw [List.filterMap_cons_none shown,
          List.filter_cons_of_neg (by simpa using some)]
        exact ih

def threeRows : Sheet :=
  ⟨"Input", ["Claim No", "Amount"],
    [[.text "C1", .text "100"], [.text "C2", .text "n/a"],
      [.text "C3", .text "0"]]⟩

theorem exists_build_partitions_three_rows :
    ∃ summary : Summary,
      Settings.audit {} threeRows ((ColumnMap.empty).insert "Amount" .number)
        [⟨"1", "amount present", ["amount!='n/a'", "amount>0"]⟩] = .ok summary ∧
      ∃ errorSheets,
        (build threeRows summary).sheets =
          { threeRows with name := "Original" } :: errorSheets ∧
        List.Forall₂ (Collects threeRows summary)
          ([Category.dataType, .condition].filter fun category =>
            0 < (summary.count category).invalid)
          errorSheets :=
  Exists.imp (fun _ audited => ⟨audited, build_partitions audited⟩) ⟨_, rfl⟩

end Report

end RowAudit
