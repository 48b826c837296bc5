import RowAudit.Command.Answer

namespace RowAudit.Command

def obstacleOf : IO.Error → Obstacle
  | .noFileOrDirectory .. => .absent
  | .alreadyExists .. => .taken
  | .inappropriateType _ 21 _ => .isDirectory
  | .inappropriateType .. => .isNoDirectory
  | .invalidArgument _ 36 _ => .nameTooLong
  | error => .other (toString error)

def attempt (action : IO α) : IO (Except Obstacle α) := do
  match ← action.toBaseIO with
  | .error error => return .error (obstacleOf error)
  | .ok outcome => return .ok outcome

def kindAt (path : String) : IO (Except Obstacle FileKind) :=
  attempt do
    let found ← (← IO.FS.realPath path).metadata
    return if found.type == .dir then .directory else .file

def readFile (path : String) : IO (Except Obstacle (List UInt8)) :=
  attempt do return (← IO.FS.readBinFile path).toList

/-- What a directory lists under a name; what cannot be looked at is no file. -/
def entryOf (entry : IO.FS.DirEntry) : IO DirectoryEntry := do
  let name := entry.fileName.toUTF8.toList
  match ← attempt entry.path.metadata with
  | .ok found =>
      if found.type == .file then
        return ⟨name, some (← readFile entry.path.toString)⟩
      else return ⟨name, none⟩
  | .error _ => return ⟨name, none⟩

def listDirectory (path : String) :
    IO (Except Obstacle (List DirectoryEntry)) :=
  attempt do (← (← IO.FS.realPath path).readDir).toList.mapM entryOf

def placeAt (path : String) : IO Place := do
  match ← kindAt path with
  | .ok .directory => return .directory (← listDirectory path)
  | .ok .file => return .file (← readFile path)
  | .error obstacle => return .unreachable obstacle

def machineFiles : FileAccess IO where
  kindAt := kindAt
  placeAt := placeAt
  makeDirectory path := attempt (IO.FS.createDir path)
  write path content := attempt (IO.FS.writeBinFile path ⟨content.toArray⟩)

end RowAudit.Command

open RowAudit.Command in
def main (arguments : List String) : IO UInt32 := do
  let answer ← answerArguments machineFiles arguments
  answer.output.forM IO.println
  answer.errors.forM IO.eprintln
  return UInt32.ofNat answer.exitCode
