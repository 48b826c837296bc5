import Mathlib.Data.List.Induction
import Mathlib.Data.List.Nodup
import RowAudit.Column
import RowAudit.Proofs.Text.LowerCase

namespace RowAudit

namespace Column

theorem settled_of_mem_normalize {name : String} {c : Char}
    (member : c ∈ (normalize name).toList) :
    Text.lowerChar c = [c] ∧ Text.isBlank c = false := by
  rw [normalize, String.toList_ofList, Text.lowerEach, List.mem_flatMap]
    at member
  obtain ⟨origin, kept, image⟩ := member
  have notBlank : Text.isBlank origin = false := by
    simpa using (List.mem_filter.mp kept).2
  rcases Text.lowerChar_eq_or_settled origin with same | settled
  · rw [same] at image
    obtain rfl := List.mem_singleton.mp image
    exact ⟨same, notBlank⟩
  · exact ⟨(settled c image).lowerChar_eq, (settled c image).notBlank⟩

theorem normalize_ne_empty {name : String} {c : Char} (member : c ∈ name.toList)
    (notBlank : Text.isBlank c = false) : normalize name ≠ "" := by
  intro empty
  rw [← String.toList_eq_nil_iff, normalize, String.toList_ofList,
    Text.lowerEach, List.flatMap_eq_nil_iff] at empty
  exact Text.lowerChar_ne_nil c
    (empty c (List.mem_filter.mpr ⟨member, by rw [notBlank]; rfl⟩))

theorem normalize_of_settled {name : String}
    (settled : ∀ c ∈ name.toList,
      Text.lowerChar c = [c] ∧ Text.isBlank c = false) :
    normalize name = name := by
  have kept : name.toList.filter (fun c => !Text.isBlank c) = name.toList := by
    rw [List.filter_eq_self]
    intro c member
    rw [(settled c member).2]
    rfl
  have lowered : Text.lowerEach name.toList = name.toList :=
    Text.lowerEach_eq_self fun c member => (settled c member).1
  rw [normalize, kept, lowered, String.ofList_toList]

@[simp] theorem normalize_normalize (name : String) :
    normalize (normalize name) = normalize name :=
  normalize_of_settled fun _ member => settled_of_mem_normalize member

end Column

namespace ColumnMap

variable {α : Type} {key : String} {value : α} {entries : List (String × α)}

theorem put_of_not_mem (absent : key ∉ entries.map Prod.fst) :
    put key value entries = entries ++ [(key, value)] := by
  induction entries with
  | nil => rfl
  | cons entry rest ih =>
      obtain ⟨other, held⟩ := entry
      rw [List.map_cons, List.mem_cons, not_or] at absent
      rw [put, if_neg fun same => absent.1 same.symm, ih absent.2,
        List.cons_append]

theorem map_fst_put_of_mem (present : key ∈ entries.map Prod.fst) :
    (put key value entries).map Prod.fst = entries.map Prod.fst := by
  induction entries with
  | nil => cases present
  | cons entry rest ih =>
      obtain ⟨other, held⟩ := entry
      rw [put]
      by_cases same : other = key
      · rw [if_pos same, List.map_cons, List.map_cons, same]
      · have later : key ∈ rest.map Prod.fst := by
          rcases List.mem_cons.mp present with here | later
          · exact absurd here.symm same
          · exact later
        rw [if_neg same, List.map_cons, List.map_cons, ih later]

theorem lookup_put_of_ne {other : String} (different : key ≠ other) :
    (put key value entries).lookup other = entries.lookup other := by
  induction entries with
  | nil => rw [put_nil, List.lookup_cons, beq_false_of_ne different.symm]
  | cons entry rest ih =>
      obtain ⟨first, held⟩ := entry
      rw [put]
      by_cases same : first = key
      · subst same
        rw [if_pos rfl, List.lookup_cons, List.lookup_cons,
          beq_false_of_ne different.symm]
      · rw [if_neg same, List.lookup_cons, List.lookup_cons, ih]

theorem lookup_of_mem (distinct : (entries.map Prod.fst).Nodup)
    {entry : String × α} (member : entry ∈ entries) :
    entries.lookup entry.1 = some entry.2 := by
  induction entries with
  | nil => cases member
  | cons first rest ih =>
      obtain ⟨absent, laterDistinct⟩ := List.nodup_cons.mp distinct
      rw [List.lookup_cons]
      rcases List.mem_cons.mp member with rfl | later
      · rw [beq_self_eq_true]
      · have different : entry.1 ≠ first.1 :=
          fun same => absent (same ▸ List.mem_map_of_mem later)
        rw [beq_false_of_ne different, ih laterDistinct later]

theorem get?_insert (map : ColumnMap α) (column : String) (value : α)
    (key : String) :
    (map.insert column value).get? key =
      if Column.normalize column = key then some value else map.get? key := by
  rw [get?, ColumnMap.insert]
  split
  · next same => rw [same, lookup_put_self]
  · next different => exact lookup_put_of_ne different

theorem get?_foldl_insert_eq (map : ColumnMap α) (pairs : List (String × α))
    (key : String) :
    (pairs.foldl (fun map pair => map.insert pair.1 pair.2) map).get? key =
      ((pairs.filter fun pair => Column.normalize pair.1 = key).getLast?.map
        Prod.snd).or
        (map.get? key) := by
  induction pairs generalizing map with
  | nil => rfl
  | cons pair rest ih =>
      rw [List.foldl_cons, ih, get?_insert, List.filter_cons]
      by_cases same : Column.normalize pair.1 = key
      · rw [if_pos same, if_pos (decide_eq_true same), List.getLast?_cons]
        cases (rest.filter fun pair =>
          Column.normalize pair.1 = key).getLast? <;> rfl
      · rw [if_neg same, if_neg (by simpa using same)]

theorem get?_foldl_insert {map : ColumnMap α} {pairs : List (String × α)}
    (only : ∀ pair ∈ pairs, Column.normalize pair.1 = key → pair.2 = value)
    (present : map.get? key = some value ∨ ∃ pair ∈ pairs,
      Column.normalize pair.1 = key) :
    (pairs.foldl (fun map pair => map.insert pair.1 pair.2) map).get? key =
      some value := by
  rw [get?_foldl_insert_eq]
  cases last : (pairs.filter fun pair =>
    Column.normalize pair.1 = key).getLast? with
  | none =>
      have unnamed :=
        List.filter_eq_nil_iff.mp (List.getLast?_eq_none_iff.mp last)
      rcases present with held | ⟨pair, member, named⟩
      · exact held
      · exact absurd (decide_eq_true named) (unnamed pair member)
  | some pair =>
      obtain ⟨member, named⟩ := List.mem_filter.mp (List.mem_of_getLast? last)
      exact congrArg some (only pair member (of_decide_eq_true named))

theorem get?_ofList (pairs : List (String × α)) (key : String) :
    (ofList pairs).get? key =
      (pairs.filter fun pair => Column.normalize pair.1 = key).getLast?.map
        Prod.snd := by
  rw [ofList, get?_foldl_insert_eq]
  exact Option.or_none

structure Canonical (map : ColumnMap α) : Prop where
  nodup : map.keys.Nodup
  normal : ∀ key ∈ map.keys, Column.normalize key = key

theorem canonical_empty : (empty : ColumnMap α).Canonical :=
  ⟨List.nodup_nil, fun _ member => nomatch member⟩

theorem keys_insert_of_mem {map : ColumnMap α} {column : String}
    (present : Column.normalize column ∈ map.keys) (value : α) :
    (map.insert column value).keys = map.keys :=
  map_fst_put_of_mem present

theorem keys_insert_of_not_mem {map : ColumnMap α} {column : String}
    (absent : Column.normalize column ∉ map.keys) (value : α) :
    (map.insert column value).keys = map.keys ++ [Column.normalize column] := by
  rw [keys, ColumnMap.insert, put_of_not_mem absent, List.map_append]
  rfl

theorem Canonical.insert {map : ColumnMap α} (canonical : map.Canonical)
    (column : String) (value : α) : (map.insert column value).Canonical := by
  by_cases present : Column.normalize column ∈ map.keys
  · have same := keys_insert_of_mem present value
    exact ⟨same ▸ canonical.nodup, same ▸ canonical.normal⟩
  · have grown := keys_insert_of_not_mem present value
    constructor
    · rw [grown, ← List.concat_eq_append]
      exact canonical.nodup.concat present
    · intro key member
      rw [grown] at member
      rcases List.mem_append.mp member with earlier | last
      · exact canonical.normal key earlier
      · rw [List.mem_singleton.mp last, Column.normalize_normalize]

theorem Canonical.foldl_insert {map : ColumnMap α} (canonical : map.Canonical)
    (pairs : List (String × α)) :
    (pairs.foldl (fun map pair => map.insert pair.1 pair.2) map).Canonical := by
  induction pairs generalizing map with
  | nil => exact canonical
  | cons pair rest ih => exact ih (canonical.insert pair.1 pair.2)

theorem ofList_concat (pairs : List (String × α)) (pair : String × α) :
    ofList (pairs ++ [pair]) = (ofList pairs).insert pair.1 pair.2 := by
  rw [ofList, List.foldl_append]
  rfl

theorem keys_ofList (pairs : List (String × α)) :
    (ofList pairs).keys =
      (pairs.map fun pair => Column.normalize pair.1).eraseDups := by
  induction pairs using List.reverseRecOn with
  | nil => rfl
  | append_singleton pairs pair ih =>
      rw [ofList_concat, List.map_append, List.map_singleton,
        List.eraseDups_append, ← ih]
      by_cases present : Column.normalize pair.1 ∈ (ofList pairs).keys
      · have known := List.mem_eraseDups.mp (ih ▸ present)
        rw [keys_insert_of_mem present]
        simp [List.removeAll, known]
      · have new := mt List.mem_eraseDups.mpr (ih ▸ present)
        rw [keys_insert_of_not_mem present]
        simp [List.removeAll, new, List.eraseDups_cons]

theorem canonical_ofList (pairs : List (String × α)) :
    (ofList pairs).Canonical :=
  canonical_empty.foldl_insert pairs

theorem entries_foldl_insert {map : ColumnMap α} {pairs : List (String × α)}
    (normal : ∀ pair ∈ pairs, Column.normalize pair.1 = pair.1)
    (nodup : (map.keys ++ pairs.map Prod.fst).Nodup) :
    (pairs.foldl (fun map pair => map.insert pair.1 pair.2) map).entries =
      map.entries ++ pairs := by
  induction pairs generalizing map with
  | nil => exact (List.append_nil _).symm
  | cons pair rest ih =>
      obtain ⟨isNormal, laterNormal⟩ := List.forall_mem_cons.mp normal
      have absent : pair.1 ∉ map.keys := by
        intro present
        exact (List.nodup_append.mp nodup).2.2 pair.1 present pair.1
          List.mem_cons_self rfl
      have grown :
          (map.insert pair.1 pair.2).entries = map.entries ++ [pair] := by
        rw [ColumnMap.insert, isNormal]
        exact put_of_not_mem absent
      have keys : (map.insert pair.1 pair.2).keys = map.keys ++ [pair.1] := by
        rw [ColumnMap.keys, grown, List.map_append]
        rfl
      rw [List.foldl_cons, ih laterNormal, grown, List.append_assoc]
      · rfl
      · rw [keys, List.append_assoc]
        exact nodup

def followedBy (first second : ColumnMap α) : ColumnMap α :=
  ofList (first.entries ++ second.entries)

theorem entries_followedBy {first second : ColumnMap α}
    (firstCanonical : first.Canonical) (secondCanonical : second.Canonical)
    (apart : ∀ key ∈ first.keys, key ∉ second.keys) :
    (first.followedBy second).entries = first.entries ++ second.entries := by
  apply entries_foldl_insert
  · intro pair member
    rcases List.mem_append.mp member with inFirst | inSecond
    · exact firstCanonical.normal pair.1 (List.mem_map_of_mem inFirst)
    · exact secondCanonical.normal pair.1 (List.mem_map_of_mem inSecond)
  · rw [List.map_append]
    change (first.keys ++ second.keys).Nodup
    refine List.nodup_append.mpr
      ⟨firstCanonical.nodup, secondCanonical.nodup, ?_⟩
    intro left inFirst right inSecond same
    exact apart left inFirst (same ▸ inSecond)

end ColumnMap

end RowAudit
