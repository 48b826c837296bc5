import RowAudit.Fault
import RowAudit.Files.Access
import RowAudit.Report

/-!
Saving a report into a directory, which is made if it is not there. The files
are written in their order, up to the first that cannot be.
-/

namespace RowAudit

/-- The files that a saving writes, by name and text, and what stops it before
the others. -/
structure Saving where
  written : List (String × String)
  fault : Option Fault
  deriving DecidableEq

namespace Report

variable {m : Type → Type} [Monad m]

def unwritable (directory name : String) (obstacle : Obstacle) : Fault :=
  if name = summaryName then
    .unwritableSummary (FilePath.within directory name) obstacle
  else .unwritableSheet obstacle

def writeFiles (files : FileAccess m) (directory : String) :
    List (String × String) → m Saving
  | [] => return ⟨[], none⟩
  | (name, text) :: rest => do
      match ← files.write (FilePath.within directory name)
          text.toUTF8.toList with
      | .error obstacle =>
          return ⟨[], some (unwritable directory name obstacle)⟩
      | .ok () =>
          let saving ← writeFiles files directory rest
          return { saving with written := (name, text) :: saving.written }

/-- Saves a report into a directory, unless something is in the way of that. -/
def save (report : Report) (files : FileAccess m) (directory : String) :
    m Saving := do
  match ← files.kindAt directory with
  | .error _ =>
      match ← files.provideDirectories directory with
      | .error obstacle =>
          return ⟨[], some (.unmakableDirectory directory obstacle)⟩
      | .ok () => writeFiles files directory report.files
  | .ok _ => writeFiles files directory report.files

end Report

end RowAudit
