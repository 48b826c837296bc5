import RowAudit.Files.Path
import RowAudit.Files.Place

namespace RowAudit

/-- The ways to look at files and directories and to make them. The kind of what
stands at a path can be had without reading it. -/
structure FileAccess (m : Type → Type) where
  kindAt : String → m (Except Obstacle FileKind)
  placeAt : String → m Place
  makeDirectory : String → m (Except Obstacle Unit)
  write : String → List UInt8 → m (Except Obstacle Unit)

namespace FileAccess

variable {m : Type → Type} [Monad m]

def provideDirectory (files : FileAccess m) (path : String) :
    m (Except Obstacle Unit) := do
  match ← files.makeDirectory path with
  | .ok () => return .ok ()
  | .error obstacle =>
      match ← files.kindAt path with
      | .ok .directory => return .ok ()
      | _ => return .error obstacle

/-- Provides the first directory, and where it lies in something absent, first
those after it. -/
def provideWithin (files : FileAccess m) :
    List String → m (Except Obstacle Unit)
  | [] => return .error .absent
  | path :: parents => do
      match ← files.provideDirectory path with
      | .error .absent =>
          match ← files.provideWithin parents with
          | .error obstacle => return .error obstacle
          | .ok () => files.provideDirectory path
      | outcome => return outcome

/-- Provides a directory and the directories that its path leads through. There
is nothing to provide at the empty path. -/
def provideDirectories (files : FileAccess m) (path : String) :
    m (Except Obstacle Unit) :=
  if path = "" then return .ok ()
  else files.provideWithin (path :: FilePath.parents path)

end FileAccess

end RowAudit
