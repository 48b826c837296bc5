import RowAudit.Proofs.Files.Path
import RowAudit.Proofs.Files.Tree
import RowAudit.Report.Saving

namespace RowAudit

namespace FileTree

theorem run_bind {α β : Type} (first : StateM FileTree α)
    (later : α → StateM FileTree β) (tree : FileTree) :
    (first >>= later).run tree =
      (later (first.run tree).1).run (first.run tree).2 :=
  rfl

theorem run_update (change : FileTree → Except Obstacle FileTree)
    (tree : FileTree) :
    (update change).run tree =
      match change tree with
      | .error obstacle => (.error obstacle, tree)
      | .ok changed => (.ok (), changed) := by
  rw [update, StateT.run_bind, StateT.run_get, pure_bind]
  cases change tree with
  | error obstacle => rfl
  | ok changed => rfl

end FileTree

namespace Report

structure IsFileName (name : String) : Prop where
  single : '/' ∉ name.toList
  nonempty : name ≠ ""

variable {directory : String} {tree : FileTree} {files : List (String × String)}

theorem run_writeFiles_cons (directory name text : String)
    (rest : List (String × String)) (tree : FileTree) :
    (writeFiles FileTree.access directory ((name, text) :: rest)).run tree =
      match tree.write (FilePath.within directory name) text.toUTF8.toList with
      | .error obstacle =>
          (⟨[], some (unwritable directory name obstacle)⟩, tree)
      | .ok after =>
          let later := (writeFiles FileTree.access directory rest).run after
          (⟨(name, text) :: later.1.written, later.1.fault⟩, later.2) := by
  have write :
      (FileTree.access.write
        (FilePath.within directory name) text.toUTF8.toList).run tree = _ :=
    FileTree.run_update
      (fun tree => tree.write
        (FilePath.within directory name) text.toUTF8.toList) tree
  rw [writeFiles, FileTree.run_bind, write]
  cases tree.write (FilePath.within directory name) text.toUTF8.toList with
  | error obstacle => rfl
  | ok after => rfl

theorem run_save (report : Report) (directory : String) (tree : FileTree) :
    ((report.save FileTree.access directory).run tree).1.written = [] ∨
      ∃ start, (report.save FileTree.access directory).run tree =
        (writeFiles FileTree.access directory report.files).run start := by
  rw [save, FileTree.run_bind]
  cases ((FileTree.access.kindAt directory).run tree).1 with
  | ok kind => exact .inr ⟨_, rfl⟩
  | error obstacle =>
      dsimp only
      rw [FileTree.run_bind]
      cases ((FileTree.access.provideDirectories directory).run _).1 with
      | ok provided => exact .inr ⟨_, rfl⟩
      | error obstacle => exact .inl rfl

theorem holds_writeFiles {path name : String} {content : List UInt8}
    (fileNames : ∀ file ∈ files, IsFileName file.1)
    (absent : name ∉ files.map Prod.fst)
    (holds : tree.Holds path name content) :
    ((writeFiles FileTree.access directory files).run tree).2.Holds path name
      content := by
  induction files generalizing tree with
  | nil => exact holds
  | cons file rest ih =>
      obtain ⟨other, text⟩ := file
      obtain ⟨here, later⟩ := List.forall_mem_cons.mp fileNames
      rw [List.map_cons, List.mem_cons, not_or] at absent
      obtain ⟨before, split⟩ :=
        FilePath.exists_names_within directory here.single
      rw [run_writeFiles_cons]
      cases written :
        tree.write (FilePath.within directory other) text.toUTF8.toList with
      | error obstacle => exact holds
      | ok after =>
          exact ih later absent.2
            (holds.write split here.nonempty absent.1 written)

theorem holds_of_mem_written (fileNames : ∀ file ∈ files, IsFileName file.1)
    (distinct : (files.map Prod.fst).Nodup) :
    ∀ file ∈ ((writeFiles FileTree.access directory files).run tree).1.written,
      file ∈ files ∧
        ((writeFiles FileTree.access directory files).run tree).2.Holds
          (FilePath.within directory file.1) file.1 file.2.toUTF8.toList := by
  induction files generalizing tree with
  | nil =>
      intro file member
      cases member
  | cons first rest ih =>
      obtain ⟨name, text⟩ := first
      obtain ⟨here, later⟩ := List.forall_mem_cons.mp fileNames
      obtain ⟨absent, distinctLater⟩ := List.nodup_cons.mp distinct
      obtain ⟨before, split⟩ :=
        FilePath.exists_names_within directory here.single
      rw [run_writeFiles_cons]
      cases written :
        tree.write (FilePath.within directory name) text.toUTF8.toList with
      | error obstacle =>
          intro file member
          cases member
      | ok after =>
          intro file member
          rcases List.mem_cons.mp member with rfl | member
          · have holds := FileTree.holds_of_write split here.nonempty written
            exact ⟨List.mem_cons_self, holds_writeFiles later absent holds⟩
          · obtain ⟨among, holds⟩ := ih later distinctLater file member
            exact ⟨List.mem_cons_of_mem _ among, holds⟩

/-- What a saving tells of as written is a file of the report, and stands in the
directory with its text. -/
theorem placeAt_of_mem_saved {report : Report}
    (fileNames : ∀ file ∈ report.files, IsFileName file.1)
    (distinct : (report.files.map Prod.fst).Nodup) :
    ∀ file ∈ ((report.save FileTree.access directory).run tree).1.written,
      file ∈ report.files ∧
        ((report.save FileTree.access directory).run tree).2.placeAt
          (FilePath.within directory file.1) =
          .file (.ok file.2.toUTF8.toList) := by
  intro file member
  rcases run_save report directory tree with none | ⟨start, run⟩
  · rw [none] at member
    cases member
  · rw [run] at member ⊢
    obtain ⟨among, holds⟩ := holds_of_mem_written fileNames distinct file member
    exact ⟨among, holds.placeAt_eq⟩

end Report

end RowAudit
