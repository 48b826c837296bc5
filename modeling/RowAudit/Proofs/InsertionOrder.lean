import RowAudit.Proofs.Sheet.Normalized
import RowAudit.Row
import RowAudit.Schema.TypeMap

namespace RowAudit

namespace ColumnMap

variable {α : Type} {map : ColumnMap α} {insertions : List (String × α)}

def names (insertions : List (String × α)) : List String :=
  insertions.map fun insertion => Column.normalize insertion.1

/-- What a map holds after insertions into an empty one. -/
structure Holds (insertions : List (String × α)) (map : ColumnMap α) :
    Prop extends map.Canonical where
  mem_iff : ∀ key, key ∈ map.keys ↔ key ∈ names insertions
  ordered : map.keys.Pairwise fun earlier later =>
    (names insertions).idxOf earlier < (names insertions).idxOf later
  latest : ∀ key ∈ map.keys, ∃ position column value,
    Column.LastAt (names insertions) key position ∧
    insertions[position]? = some (column, value) ∧ map.get? key = some value
  found : ∀ entry ∈ map.entries, map.get? entry.1 = some entry.2
  absent : ∀ key, key ∉ names insertions → map.get? key = none

@[simp] theorem length_names (insertions : List (String × α)) :
    (names insertions).length = insertions.length :=
  List.length_map _

theorem names_concat (insertions : List (String × α)) (column : String)
    (value : α) :
    names (insertions ++ [(column, value)]) = names insertions ++
      [Column.normalize column] :=
  List.map_append

theorem holds_empty : (empty : ColumnMap α).Holds [] where
  toCanonical := canonical_empty
  mem_iff _ := Iff.rfl
  ordered := .nil
  latest := fun _ member => nomatch member
  found := fun _ member => nomatch member
  absent _ _ := rfl

theorem Holds.mem_keys_insert_iff (holds : map.Holds insertions)
    (column : String) (value : α) (key : String) :
    key ∈ (map.insert column value).keys ↔
      key ∈ names insertions ++ [Column.normalize column] := by
  rw [List.mem_append, List.mem_singleton, ← holds.mem_iff]
  by_cases present : Column.normalize column ∈ map.keys
  · rw [keys_insert_of_mem present]
    exact ⟨.inl, fun either => either.elim id fun same => same ▸ present⟩
  · rw [keys_insert_of_not_mem present, List.mem_append, List.mem_singleton]

theorem Holds.ordered_insert (holds : map.Holds insertions) (column : String)
    (value : α) :
    (map.insert column value).keys.Pairwise fun earlier later =>
      (names insertions ++ [Column.normalize column]).idxOf earlier <
        (names insertions ++ [Column.normalize column]).idxOf later := by
  have kept : map.keys.Pairwise fun earlier later =>
      (names insertions ++ [Column.normalize column]).idxOf earlier <
        (names insertions ++ [Column.normalize column]).idxOf later := by
    refine List.Pairwise.imp_of_mem ?_ holds.ordered
    intro earlier later earlierMember laterMember before
    rwa [List.idxOf_append_of_mem ((holds.mem_iff earlier).mp earlierMember),
      List.idxOf_append_of_mem ((holds.mem_iff later).mp laterMember)]
  -- A column that comes up again keeps its place; a new one has come up behind
  -- all others.
  by_cases present : Column.normalize column ∈ map.keys
  · rwa [keys_insert_of_mem present]
  · rw [keys_insert_of_not_mem present]
    refine List.pairwise_append.mpr ⟨kept, List.pairwise_singleton .., ?_⟩
    intro earlier member later last
    obtain rfl := List.mem_singleton.mp last
    have new : Column.normalize column ∉ names insertions :=
      mt (holds.mem_iff _).mpr present
    have old := (holds.mem_iff earlier).mp member
    rw [List.idxOf_append_of_mem old, List.idxOf_append_of_notMem new]
    exact Nat.lt_add_right _ (List.idxOf_lt_length_of_mem old)

theorem Holds.latest_insert (holds : map.Holds insertions) (column : String)
    (value : α) {key : String} (member : key ∈ (map.insert column value).keys) :
    ∃ position origin held,
      Column.LastAt (names insertions ++ [Column.normalize column]) key
      position ∧
      (insertions ++ [(column, value)])[position]? = some (origin, held) ∧
      (map.insert column value).get? key = some held := by
  rw [get?_insert]
  by_cases same : Column.normalize column = key
  · subst same
    have last :=
      Column.LastAt.of_concat (names insertions) (Column.normalize column)
    rw [length_names] at last
    exact ⟨_, column, value, last, List.getElem?_concat_length, if_pos rfl⟩
  · have earlier : key ∈ map.keys := by
      rw [holds.mem_keys_insert_iff, List.mem_append, List.mem_singleton,
        ← holds.mem_iff] at member
      exact member.resolve_right fun equal => same equal.symm
    obtain ⟨position, origin, held, last, put, got⟩ := holds.latest key earlier
    have within : position < insertions.length :=
      (List.getElem?_eq_some_iff.mp put).1
    refine ⟨position, origin, held, last.append same, ?_, ?_⟩
    · rw [List.getElem?_append_left within, put]
    · rw [if_neg same, got]

theorem Holds.insert (holds : map.Holds insertions) (column : String)
    (value : α) :
    (map.insert column value).Holds (insertions ++ [(column, value)]) where
  toCanonical := holds.toCanonical.insert column value
  mem_iff key := by rw [names_concat, holds.mem_keys_insert_iff]
  ordered := by
    rw [names_concat]
    exact holds.ordered_insert column value
  latest key member := by
    rw [names_concat]
    exact holds.latest_insert column value member
  found _ member :=
    lookup_of_mem (holds.toCanonical.insert column value).nodup member
  absent key missing := by
    rw [names_concat, List.mem_append, List.mem_singleton, not_or] at missing
    rw [get?_insert, if_neg fun same => missing.2 same.symm,
      holds.absent key missing.1]

theorem holds_ofList (insertions : List (String × α)) :
    (ofList insertions).Holds insertions := by
  induction insertions using List.reverseRecOn with
  | nil => exact holds_empty
  | append_singleton insertions insertion ih =>
      rw [ofList_concat]
      exact ih.insert insertion.1 insertion.2

end ColumnMap

namespace TypeMap

/-- Whether a row of a data-map sheet counts: it has at least two cells, and the
text of the first is not blank. -/
def Counts (cells : List Cell) : Prop :=
  2 ≤ cells.length ∧ ∃ c ∈ (cells.getD 0 .blank).shown.toList,
    Text.isBlank c = false

instance (cells : List Cell) : Decidable (Counts cells) :=
  decidable_of_iff
    (2 ≤ cells.length ∧ ¬ Text.allBlank (cells.getD 0 .blank).shown =
      true) <| by
    simp [Counts, Text.allBlank]

def declared (cells : List Cell) : String × ExpectedType :=
  ((cells.getD 0 .blank).shown,
    ExpectedType.ofToken (cells.getD 1 .blank).shown)

theorem declaration?_eq (cells : List Cell) :
    declaration? cells = if Counts cells then some (declared cells)
      else none := by
  match cells with
  | [] | [_] => rfl
  | column :: expected :: rest =>
      have named : Counts (column :: expected :: rest) ↔
          ¬ Text.allBlank column.shown = true := by
        simp [Counts, Text.allBlank]
      rw [declaration?]
      by_cases blank : Text.allBlank column.shown = true
      · rw [if_pos blank, if_neg (mt named.mp (not_not.mpr blank))]
      · rw [if_neg blank, if_pos (named.mpr blank)]
        rfl

def declarations (sheet : Sheet) : List (String × ExpectedType) :=
  (sheet.rows.filter Counts).map declared

theorem ofSheet_eq (sheet : Sheet) :
    ofSheet sheet = ColumnMap.ofList (declarations sheet) := by
  have same : declaration? = fun cells =>
      (Option.guard (Counts ·) cells).map declared := by
    funext cells
    rw [declaration?_eq]
    by_cases counts : Counts cells <;> simp [Option.guard, counts]
  rw [ofSheet, declarations, same, ← List.map_filterMap,
    List.filterMap_eq_filter]

theorem key_ne_empty {sheet : Sheet} {key : String}
    (member : key ∈ (ofSheet sheet).keys) : key ≠ "" := by
  rw [ofSheet_eq, (ColumnMap.holds_ofList _).mem_iff, ColumnMap.names,
    declarations, List.map_map] at member
  obtain ⟨cells, counted, rfl⟩ := List.mem_map.mp member
  obtain ⟨c, named, notBlank⟩ :=
    (of_decide_eq_true (List.mem_filter.mp counted).2 : Counts cells).2
  exact Column.normalize_ne_empty named notBlank

end TypeMap

/--
What rows and type maps hold, put in one by one or read from a sheet. A row has
blank cells in the columns that it was never given; a type map that is read from
a sheet has names for all its columns.
-/
theorem ColumnMap.insertions_held :
    (∀ insertions : List (String × Cell), Holds insertions (ofList insertions) ∧
      ∀ key, key ∉ names insertions →
        Row.cell (ofList insertions) key = .blank) ∧
    (∀ insertions : List (String × ExpectedType),
      Holds insertions (ofList insertions)) ∧
    ∀ sheet, Holds (TypeMap.declarations sheet) (TypeMap.ofSheet sheet) ∧
      ∀ key ∈ (TypeMap.ofSheet sheet).keys, key ≠ "" := by
  refine ⟨fun insertions => ⟨holds_ofList insertions, fun key missing => ?_⟩,
    holds_ofList, fun sheet => ⟨?_, ?_⟩⟩
  · rw [Row.cell, (holds_ofList insertions).absent key missing,
      Option.getD_none]
  · rw [TypeMap.ofSheet_eq]
    exact holds_ofList _
  · exact fun _ member => TypeMap.key_ne_empty member

def claimCells : List (String × Cell) :=
  [("Claim No", .text "C1"), ("Amount", .number (.ofInt 10)),
    ("claim\tNO", .text "C2")]

def claimTypes : Sheet :=
  ⟨"DataMap", ["Column", "Type"],
    [[.text "Claim No", .text "Text"], [.text "Amount"],
      [.text " Paid Amount ", .text "AMOUNT"],
      [.blank, .text "text"]]⟩

theorem ColumnMap.insertions_held_claim :
    (ofList claimCells).entries =
      [("claimno", .text "C2"), ("amount", .number (.ofInt 10))] ∧
    Holds claimCells (ofList claimCells) ∧
    "status" ∉ names claimCells ∧
      Row.cell (ofList claimCells) "status" = .blank ∧
    "paidamount" ∈ (TypeMap.ofSheet claimTypes).keys ∧ "paidamount" ≠ "" ∧
    "amount" ∉ names (TypeMap.declarations claimTypes) ∧
      (TypeMap.ofSheet claimTypes).get? "amount" = none := by
  have unknown : "status" ∉ names claimCells := by decide +kernel
  have paid : "paidamount" ∈ (TypeMap.ofSheet claimTypes).keys := by
    decide +kernel
  have undeclared : "amount" ∉ names (TypeMap.declarations claimTypes) := by
    decide +kernel
  obtain ⟨rows, -, sheets⟩ := insertions_held
  refine ⟨by decide +kernel, (rows claimCells).1, unknown,
    (rows claimCells).2 _ unknown, paid, ?_, undeclared, ?_⟩
  · exact (sheets claimTypes).2 _ paid
  · exact (sheets claimTypes).1.absent _ undeclared

end RowAudit
