import Mathlib.Tactic.SplitIfs
import RowAudit.Files.Tree

namespace RowAudit

namespace FileTree

variable {tree after : FileTree} {here location : Location} {node : FileNode}
  {content : List UInt8}

theorem node?_put_self (nonempty : location ≠ []) :
    (tree.put location node).node? location = some node := by
  have removed :
      (tree.nodes.filter fun entry => entry.1 ≠ location).lookup location =
        none := by
    rw [List.lookup_eq_none_iff]
    intro entry member
    have other := of_decide_eq_true (List.mem_filter.mp member).2
    simpa using Ne.symm other
  rw [node?, if_neg nonempty, put, List.lookup_append, removed]
  simp

theorem lookup_filter_of_ne {nodes : List (Location × FileNode)}
    {other : Location} (different : other ≠ location) :
    (nodes.filter fun entry => entry.1 ≠ location).lookup other =
      nodes.lookup other := by
  induction nodes with
  | nil => rfl
  | cons entry rest ih =>
      obtain ⟨place, held⟩ := entry
      by_cases same : place = location
      · subst same
        rw [List.filter_cons_of_neg (by simp), ih, List.lookup_cons,
          beq_false_of_ne different]
      · rw [List.filter_cons_of_pos (by simpa using same), List.lookup_cons,
          List.lookup_cons, ih]

theorem node?_put_of_ne {other : Location} (different : other ≠ location) :
    (tree.put location node).node? other = tree.node? other := by
  have single : [(location, node)].lookup other = none := by
    rw [List.lookup_cons, beq_false_of_ne different]
    rfl
  rw [node?, node?, put, List.lookup_append, lookup_filter_of_ne different,
    single, Option.or_none]

/-! Following names through a tree in which a file was put. -/

inductive Steps (tree : FileTree) (here : Location) (name : String) :
    Location → Prop
  | idle (idle : FilePath.isIdle name = true) : Steps tree here name here
  | up (notIdle : FilePath.isIdle name = false) (up : name = "..") :
      Steps tree here name here.dropLast
  | down (notIdle : FilePath.isIdle name = false) (notUp : name ≠ "..")
      (short : name.utf8ByteSize ≤ nameLimit)
      (there : tree.node? (here ++ [name]) ≠ none) :
      Steps tree here name (here ++ [name])

theorem step_eq_ok_iff {name : String} {next : Location} :
    tree.step here name = .ok next ↔
      tree.node? here = some .directory ∧ tree.Steps here name next := by
  rw [step]
  constructor
  · intro stepped
    split_ifs at stepped with noDirectory idle up long absent
    · obtain rfl := Except.ok.inj stepped
      exact ⟨Decidable.not_not.mp noDirectory, .idle idle⟩
    · obtain rfl := Except.ok.inj stepped
      exact ⟨Decidable.not_not.mp noDirectory,
        .up (Bool.eq_false_iff.mpr idle) up⟩
    · obtain rfl := Except.ok.inj stepped
      have short := Nat.le_of_not_lt long
      exact ⟨Decidable.not_not.mp noDirectory,
        .down (Bool.eq_false_iff.mpr idle) up short absent⟩
  · intro stepped
    obtain ⟨directory, steps⟩ := stepped
    rw [if_neg (Decidable.not_not.mpr directory)]
    cases steps with
    | idle idle => rw [if_pos idle]
    | up notIdle up => rw [notIdle, if_neg Bool.false_ne_true, if_pos up]
    | down notIdle notUp short there =>
        rw [notIdle, if_neg Bool.false_ne_true, if_neg notUp,
          if_neg (Nat.not_lt_of_le short), if_neg there]

theorem Steps.put {name : String} {next : Location}
    (steps : tree.Steps here name next) (elsewhere : next ≠ location) :
    (tree.put location node).Steps here name next := by
  cases steps with
  | idle idle => exact .idle idle
  | up notIdle up => exact .up notIdle up
  | down notIdle notUp short there =>
      refine .down notIdle notUp short ?_
      rwa [node?_put_of_ne elsewhere]

theorem node?_put_of_directory (directory : tree.node? here = some .directory)
    (noDirectory : tree.node? location ≠ some .directory) :
    (tree.put location node).node? here = some .directory := by
  rwa [node?_put_of_ne]
  intro same
  exact noDirectory (same ▸ directory)

theorem directory_of_foldlM {names : List String} {start : Location}
    (followed : names.foldlM tree.step start = .ok here)
    (directory : tree.node? here = some .directory) :
    tree.node? start = some .directory := by
  cases names with
  | nil =>
      obtain rfl := Except.ok.inj followed
      exact directory
  | cons name names =>
      rw [List.foldlM_cons] at followed
      cases stepped : tree.step start name with
      | error obstacle =>
          rw [stepped] at followed
          cases followed
      | ok next => exact (step_eq_ok_iff.mp stepped).1

theorem foldlM_step_put {names : List String} {start : Location}
    (followed : names.foldlM tree.step start = .ok here)
    (directory : tree.node? here = some .directory)
    (noDirectory : tree.node? location ≠ some .directory) :
    names.foldlM (tree.put location node).step start = .ok here := by
  induction names generalizing start with
  | nil => exact followed
  | cons name names ih =>
      rw [List.foldlM_cons] at followed ⊢
      cases stepped : tree.step start name with
      | error obstacle =>
          rw [stepped] at followed
          cases followed
      | ok next =>
          rw [stepped] at followed
          obtain ⟨startDirectory, steps⟩ := step_eq_ok_iff.mp stepped
          have nextDirectory := directory_of_foldlM followed directory
          have elsewhere : next ≠ location := by
            intro same
            exact noDirectory (same ▸ nextDirectory)
          have again : (tree.put location node).step start name = .ok next :=
            step_eq_ok_iff.mpr
              ⟨node?_put_of_directory startDirectory noDirectory,
                steps.put elsewhere⟩
          rw [again]
          exact ih followed

theorem follow_put {path : String} {names : List String}
    (followed : tree.follow path names = .ok here)
    (directory : tree.node? here = some .directory)
    (noDirectory : tree.node? location ≠ some .directory) :
    (tree.put location node).follow path names = .ok here := by
  rw [follow] at followed ⊢
  split_ifs at followed ⊢ with nul long absolute
  · exact foldlM_step_put followed directory noDirectory
  · exact foldlM_step_put followed directory noDirectory

/-- A path that leads to a name in a directory, whether or not anything stands
there. -/
structure Names (tree : FileTree) (path : String) (here : Location)
    (name : String) : Prop where
  followed : ∃ before, FilePath.names path = before ++ [name] ∧
    tree.follow path before = .ok here
  directory : tree.node? here = some .directory
  notIdle : FilePath.isIdle name = false
  notUp : name ≠ ".."
  short : name.utf8ByteSize ≤ nameLimit

variable {path name : String}

theorem Names.put (names : tree.Names path here name)
    (noDirectory : tree.node? location ≠ some .directory) :
    (tree.put location node).Names path here name := by
  obtain ⟨⟨before, split, followed⟩, directory, notIdle, notUp, short⟩ := names
  exact ⟨⟨before, split, follow_put followed directory noDirectory⟩,
    node?_put_of_directory directory noDirectory, notIdle, notUp, short⟩

theorem Names.ne_empty (names : tree.Names path here name) : path ≠ "" := by
  intro empty
  subst empty
  obtain ⟨before, split, -⟩ := names.followed
  have last : name ∈ FilePath.names "" :=
    split ▸ List.mem_append_right before (List.mem_singleton_self name)
  have empty : FilePath.names "" = [""] := by decide
  rw [empty, List.mem_singleton] at last
  have notIdle := names.notIdle
  subst last
  cases notIdle

theorem follow_append (path : String) (before names : List String) :
    tree.follow path (before ++ names) =
      (tree.follow path before).bind fun start =>
        names.foldlM tree.step start := by
  rw [follow, follow]
  split_ifs with nul long absolute
  · rfl
  · rfl
  · rw [List.foldlM_append]
    rfl
  · rw [List.foldlM_append]
    rfl

theorem Names.locate_eq (names : tree.Names path here name)
    (there : tree.node? (here ++ [name]) ≠ none) :
    tree.locate path = .ok (here ++ [name]) := by
  obtain ⟨before, split, followed⟩ := names.followed
  have stepped : tree.step here name = .ok (here ++ [name]) :=
    step_eq_ok_iff.mpr
      ⟨names.directory, .down names.notIdle names.notUp names.short there⟩
  rw [locate, if_neg names.ne_empty, split, follow_append, followed]
  exact congrArg (·.bind pure) stepped

theorem Names.placeAt_eq (names : tree.Names path here name)
    (found : tree.node? (here ++ [name]) = some (.file content)) :
    tree.placeAt path = .file (.ok content) := by
  have located := names.locate_eq (found ▸ Option.some_ne_none _)
  have node : tree.nodeAt path = .ok (here ++ [name], .file content) := by
    rw [nodeAt, located]
    simp only [bind, Except.bind, found]
    rfl
  rw [placeAt, node]

/-! Writing. -/

theorem names_of_locateLast {before : List String} {last : String}
    (split : FilePath.names path = before ++ [name]) (nonempty : name ≠ "")
    (located : tree.locateLast path = .ok (here, last)) :
    last = name ∧ tree.follow path before = .ok here ∧
      tree.node? here = some .directory ∧
      name.utf8ByteSize ≤ nameLimit := by
  have reversed :
      (FilePath.names path).reverse.dropWhile (· = "") =
        name :: before.reverse := by
    rw [split, List.reverse_append]
    exact List.dropWhile_cons_of_neg (by simpa using nonempty)
  rw [locateLast, reversed] at located
  dsimp only at located
  rw [List.reverse_reverse] at located
  cases followed : tree.follow path before with
  | error obstacle =>
      rw [followed] at located
      cases located
  | ok start =>
      rw [followed] at located
      simp only [bind, Except.bind] at located
      split_ifs at located with noDirectory long
      obtain ⟨rfl, rfl⟩ := Prod.mk.inj (Except.ok.inj located)
      exact ⟨rfl, rfl, Decidable.not_not.mp noDirectory, Nat.le_of_not_lt long⟩

/-- What a writing does: it puts the file under the last name of the path. -/
theorem exists_names_of_write {before : List String}
    (split : FilePath.names path = before ++ [name]) (nonempty : name ≠ "")
    (written : tree.write path content = .ok after) :
    ∃ here, tree.Names path here name ∧
      tree.node? (here ++ [name]) ≠ some .directory ∧
      tree.put (here ++ [name]) (.file content) = after := by
  rw [FileTree.write] at written
  cases located : tree.locateLast path with
  | error obstacle =>
      rw [located] at written
      cases written
  | ok found =>
      obtain ⟨here, last⟩ := found
      obtain ⟨rfl, followed, directory, short⟩ :=
        names_of_locateLast split nonempty located
      rw [located] at written
      simp only [bind, Except.bind] at written
      split_ifs at written with refused
      obtain ⟨-, notDot, notUp, noDirectory⟩ : _ ∧ _ ∧ _ ∧ _ := by
        simpa only [not_or] using refused
      have notIdle : FilePath.isIdle last = false := by
        simp [FilePath.isIdle, nonempty, notDot]
      exact ⟨here, ⟨⟨before, split, followed⟩, directory, notIdle, notUp,
        short⟩, noDirectory,
        Except.ok.inj written⟩

def Holds (tree : FileTree) (path name : String) (content : List UInt8) :
    Prop :=
  ∃ here, tree.Names path here name ∧
    tree.node? (here ++ [name]) = some (.file content)

theorem Holds.placeAt_eq (holds : tree.Holds path name content) :
    tree.placeAt path = .file (.ok content) := by
  obtain ⟨here, names, found⟩ := holds
  exact names.placeAt_eq found

theorem holds_of_write {before : List String}
    (split : FilePath.names path = before ++ [name]) (nonempty : name ≠ "")
    (written : tree.write path content = .ok after) :
    after.Holds path name content := by
  obtain ⟨here, names, noDirectory, rfl⟩ :=
    exists_names_of_write split nonempty written
  exact ⟨here, names.put noDirectory,
    node?_put_self (List.append_ne_nil_of_right_ne_nil _ (by simp))⟩

/-- Writing under another name leaves a file where it stands. -/
theorem Holds.write {other otherName : String} {before : List String}
    {bytes : List UInt8} (holds : tree.Holds path name content)
    (split : FilePath.names other = before ++ [otherName])
    (nonempty : otherName ≠ "") (different : name ≠ otherName)
    (written : tree.write other bytes = .ok after) :
    after.Holds path name content := by
  obtain ⟨here, names, found⟩ := holds
  obtain ⟨there, -, noDirectory, rfl⟩ :=
    exists_names_of_write split nonempty written
  refine ⟨here, names.put noDirectory, ?_⟩
  rw [node?_put_of_ne, found]
  intro same
  exact different (List.append_inj' same rfl |>.2 |> List.singleton_inj.mp)

end FileTree

end RowAudit
