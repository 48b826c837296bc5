import RowAudit.Proofs.FirstFault
import RowAudit.Workbook

namespace RowAudit.Workbook

variable {reading : Reading} {directory : String}
  {entries : List DirectoryEntry} {files : List ListedFile}

def Lists (entries : List DirectoryEntry) (file : ListedFile) : Prop :=
  ∃ entry ∈ entries, sheetFile? entry = some file

structure ByName (entries : List DirectoryEntry) (files : List ListedFile) :
    Prop where
  mem_iff : ∀ file, file ∈ files ↔ Lists entries file
  ascending : files.Pairwise fun left right => left.name < right.name

/-- The first sheet file by name that cannot be read, be it that the file gives
no content or that the content is no sheet. -/
structure FirstRefused (reading : Reading) (directory : String)
    (entries : List DirectoryEntry) (file : ListedFile) (fault : Fault) :
    Prop where
  listed : Lists entries file
  refused : readListed reading directory file = .error fault
  earlier : ∀ other, Lists entries other → other.name < file.name →
    ∃ read, readListed reading directory other = .ok read

def ReadFrom (reading : Reading) (files : List ListedFile)
    (workbook : Workbook) : Prop :=
  ∃ pairs, List.Forall₂
      (fun file pair => ∃ content, file.content = .ok content ∧
        reading.sheetOfFile ⟨file.name, content⟩ = .ok pair) files pairs ∧
    workbook = ⟨pairs.map Prod.fst, pairs.map Prod.snd⟩

theorem readListed_eq_ok_iff (directory : String) {file : ListedFile}
    {pair : Sheet × Source} :
    readListed reading directory file = .ok pair ↔
      ∃ content, file.content = .ok content ∧
        reading.sheetOfFile ⟨file.name, content⟩ = .ok pair := by
  rw [readListed]
  cases file.content with
  | ok content =>
      constructor
      · exact fun read => ⟨content, rfl, read⟩
      · intro found
        obtain ⟨_, same, read⟩ := found
        obtain rfl := Except.ok.inj same
        exact read
  | error obstacle =>
      constructor
      · intro refused
        cases refused
      · intro found
        obtain ⟨_, same, -⟩ := found
        cases same

theorem sheetFile?_of_extension {name : List UInt8} {extension : String}
    (named : (splitFileName name).2 >>= Text.decode? = some extension)
    (known : Text.lower extension ∈ sheetExtensions)
    (content : Except Obstacle (List UInt8)) :
    sheetFile? ⟨name, some content⟩ = some ⟨name, content⟩ := by
  rw [sheetFile?, named]
  exact if_pos known

theorem name_of_sheetFile? {entry : DirectoryEntry} {file : ListedFile}
    (found : sheetFile? entry = some file) : file.name = entry.name := by
  rw [sheetFile?] at found
  split at found
  · split at found
    · obtain rfl := Option.some.inj found
      rfl
    · cases found
  · cases found

theorem byName_mergeSort (distinct : (entries.map DirectoryEntry.name).Nodup) :
    ByName entries
      ((entries.filterMap sheetFile?).mergeSort fun left right =>
        decide (left.name ≤ right.name)) where
  mem_iff file := by rw [List.mem_mergeSort, List.mem_filterMap, Lists]
  ascending := by
    -- A stable sort orders the names weakly; that no two of them are the same
    -- makes the order strict.
    have apart : (entries.filterMap sheetFile?).Pairwise
        fun left right => left.name ≠ right.name := by
      refine List.pairwise_filterMap.mpr
        ((List.pairwise_map.mp distinct).imp ?_)
      intro left right different file leftFile other rightFile same
      rw [name_of_sheetFile? leftFile, name_of_sheetFile? rightFile] at same
      exact different same
    have sorted : List.Pairwise
        (fun left right => decide (left.name ≤ right.name) = true)
        ((entries.filterMap sheetFile?).mergeSort fun left right =>
          decide (left.name ≤ right.name)) := by
      apply List.pairwise_mergeSort
      · intro left middle right first second
        exact decide_eq_true
          (List.le_trans (of_decide_eq_true first) (of_decide_eq_true second))
      · intro left right
        simpa using List.le_total left.name right.name
    have stillApart := ((List.mergeSort_perm (entries.filterMap sheetFile?)
      fun left right => decide (left.name ≤ right.name)).pairwise_iff
        Ne.symm).mpr apart
    refine sorted.imp₂ (fun left right ordered different => ?_) stillApart
    exact List.not_le.mp fun reverse =>
      different (List.le_antisymm (of_decide_eq_true ordered) reverse)

theorem ByName.unique {other : List ListedFile} (left : ByName entries files)
    (right : ByName entries other) : files = other := by
  have nodup {list : List ListedFile} (byName : ByName entries list) :
      list.Nodup := by
    refine byName.ascending.imp ?_
    intro left right before same
    exact List.lt_irrefl _ (same ▸ before)
  have perm : files.Perm other :=
    (List.perm_ext_iff_of_nodup (nodup left) (nodup right)).mpr fun file =>
      (left.mem_iff file).trans (right.mem_iff file).symm
  exact perm.eq_of_pairwise
    (fun _ _ _ _ before after => absurd after (List.lt_asymm before))
    left.ascending right.ascending

theorem ofDirectory_eq_ofFiles
    (distinct : (entries.map DirectoryEntry.name).Nodup)
    (byName : ByName entries files) :
    ofDirectory reading directory entries =
      ofFiles reading directory files := by
  rw [ofDirectory, (byName_mergeSort distinct).unique byName]

theorem ofFiles_eq_ok_iff {workbook : Workbook} :
    ofFiles reading directory files = .ok workbook ↔
      ReadFrom reading files workbook := by
  simp only [ReadFrom, ← readListed_eq_ok_iff directory,
    ← mapM_eq_ok_iff]
  rw [ofFiles]
  cases files.mapM (readListed reading directory) with
  | error fault =>
      constructor
      · intro refused
        cases refused
      · intro found
        obtain ⟨_, read, -⟩ := found
        cases read
  | ok pairs =>
      constructor
      · intro same
        exact ⟨pairs, rfl, (Except.ok.inj same).symm⟩
      · intro found
        obtain ⟨_, read, rfl⟩ := found
        obtain rfl := Except.ok.inj read
        rfl

theorem ofDirectory_eq_ok_congr {workbook : Workbook} (other : String) :
    ofDirectory reading other entries = .ok workbook ↔
      ofDirectory reading directory entries = .ok workbook := by
  rw [ofDirectory, ofDirectory, ofFiles_eq_ok_iff, ofFiles_eq_ok_iff]

theorem ofFiles_eq_error_iff {fault : Fault} :
    ofFiles reading directory files = .error fault ↔
      files.mapM (readListed reading directory) = .error fault :=
  bind_pure_eq_error_iff

theorem ByName.exists_split_iff (byName : ByName entries files)
    {fault : Fault} :
    (∃ front file back, files = front ++ file :: back ∧
        readListed reading directory file = .error fault ∧
        ∀ earlier ∈ front,
          ∃ read, readListed reading directory earlier = .ok read) ↔
      ∃ file, FirstRefused reading directory entries file fault := by
  constructor
  · intro found
    obtain ⟨front, file, back, rfl, refused, read⟩ := found
    refine ⟨file, (byName.mem_iff file).mp (by simp), refused,
      fun other listed before => ?_⟩
    have ascending := List.pairwise_append.mp byName.ascending
    -- A file with a smaller name stands in front, since from `file` on the
    -- names only grow.
    rcases List.mem_append.mp ((byName.mem_iff other).mpr listed)
      with inFront | later
    · exact read other inFront
    · rcases List.mem_cons.mp later with rfl | inBack
      · exact absurd before (List.lt_irrefl _)
      · have behind := List.rel_of_pairwise_cons ascending.2.1 inBack
        exact absurd before (List.lt_asymm behind)
  · intro found
    obtain ⟨file, listed, refused, earlier⟩ := found
    obtain ⟨front, back, rfl⟩ :=
      List.append_of_mem ((byName.mem_iff file).mpr listed)
    refine ⟨front, file, back, rfl, refused, fun other inFront => ?_⟩
    have ascending := List.pairwise_append.mp byName.ascending
    exact earlier other
      ((byName.mem_iff other).mp (List.mem_append_left _ inFront))
      (ascending.2.2 other inFront file List.mem_cons_self)

/-- How a directory is loaded: its listing may have any order, the workbook has
that of the names. -/
structure LoadsByName (reading : Reading) (directory : String)
    (entries : List DirectoryEntry) : Prop where
  anyOrder : ∀ other, other.Perm entries →
    ofDirectory reading directory other =
      ofDirectory reading directory entries
  loaded : ∀ workbook, ofDirectory reading directory entries = .ok workbook ↔
    ∃ files, ByName entries files ∧ ReadFrom reading files workbook
  refused : ∀ fault, ofDirectory reading directory entries = .error fault ↔
    ∃ file, FirstRefused reading directory entries file fault

theorem loadsByName (reading : Reading) (directory : String)
    (distinct : (entries.map DirectoryEntry.name).Nodup) :
    LoadsByName reading directory entries := by
  have byName := byName_mergeSort distinct
  have same : ofDirectory reading directory entries =
      ofFiles reading directory _ := ofDirectory_eq_ofFiles distinct byName
  refine ⟨fun other perm => ?_, fun workbook => ?_, fun fault => ?_⟩
  · have listed : ByName other _ :=
      ⟨fun file => (byName.mem_iff file).trans
        (by simp only [Lists, perm.mem_iff]), byName.ascending⟩
    rw [same]
    exact ofDirectory_eq_ofFiles ((perm.map _).nodup_iff.mpr distinct) listed
  · rw [same, ofFiles_eq_ok_iff]
    constructor
    · exact fun read => ⟨_, byName, read⟩
    · intro found
      obtain ⟨files, others, read⟩ := found
      rwa [byName.unique others]
  · rw [same, ofFiles_eq_error_iff, mapM_eq_error_iff]
    exact byName.exists_split_iff

end RowAudit.Workbook
