import RowAudit.Text.Blank
import RowAudit.Text.Lowercase

/-!
Column names and maps from them. Two spellings name the same column if they
differ in case or white space alone; a map keeps its columns in the order in
which they first came up.
-/

namespace RowAudit

def Column.normalize (name : String) : String :=
  String.ofList (Text.lowerEach (name.toList.filter fun c => !Text.isBlank c))

structure ColumnMap (α : Type) where
  entries : List (String × α)
  deriving DecidableEq

namespace ColumnMap

def empty : ColumnMap α := ⟨[]⟩

instance : Inhabited (ColumnMap α) := ⟨empty⟩

/-- Puts a value where the key stands, or behind all others if it stands
nowhere. -/
def put (key : String) (value : α) : List (String × α) → List (String × α)
  | [] => [(key, value)]
  | (other, held) :: rest =>
      if other = key then (key, value) :: rest
      else (other, held) :: put key value rest

def insert (map : ColumnMap α) (column : String) (value : α) : ColumnMap α :=
  ⟨put (Column.normalize column) value map.entries⟩

/-- Looks up a name that is in normal form already. -/
def get? (map : ColumnMap α) (key : String) : Option α :=
  map.entries.lookup key

def keys (map : ColumnMap α) : List String :=
  map.entries.map Prod.fst

def size (map : ColumnMap α) : Nat :=
  map.entries.length

def ofList (pairs : List (String × α)) : ColumnMap α :=
  pairs.foldl (fun map pair => map.insert pair.1 pair.2) empty

@[simp] theorem put_nil (key : String) (value : α) :
    put key value [] = [(key, value)] := rfl

@[simp] theorem lookup_put_self (key : String) (value : α)
    (entries : List (String × α)) :
    (put key value entries).lookup key = some value := by
  induction entries with
  | nil => simp
  | cons entry rest ih =>
      obtain ⟨other, held⟩ := entry
      by_cases same : other = key
      · simp [put, same]
      · have different : (key == other) = false := by
          simpa using fun h => same h.symm
        simp [put, same, List.lookup_cons, different, ih]

end ColumnMap

end RowAudit
