import RowAudit.Files.Access

/-!
Trees of files and directories. A written path is followed name by name, and
each name but the last must lead to a directory, also where the next one leads
back out of it.
-/

namespace RowAudit

inductive FileNode where
  | file (content : List UInt8)
  | directory
  deriving DecidableEq

abbrev Location := List String

/-- What stands where, below a root directory. Paths that do not begin with a
slash lead from the working directory. -/
structure FileTree where
  nodes : List (Location × FileNode)
  workingDirectory : Location
  deriving DecidableEq

def FileNode.kind : FileNode → FileKind
  | .file _ => .file
  | .directory => .directory

def FileNode.content? : FileNode → Option (List UInt8)
  | .file content => some content
  | .directory => none

namespace FileTree

def node? (tree : FileTree) (location : Location) : Option FileNode :=
  if location = [] then some .directory else tree.nodes.lookup location

def nameLimit : Nat :=
  255

def pathLimit : Nat :=
  4095

def step (tree : FileTree) (here : Location) (name : String) :
    Except Obstacle Location :=
  if tree.node? here ≠ some .directory then .error .isNoDirectory
  else if FilePath.isIdle name then .ok here
  else if name = ".." then .ok here.dropLast
  else if nameLimit < name.utf8ByteSize then .error .nameTooLong
  else if tree.node? (here ++ [name]) = none then .error .absent
  else .ok (here ++ [name])

def follow (tree : FileTree) (path : String) (names : List String) :
    Except Obstacle Location :=
  if path.toList.contains '\x00' then
    .error (.other "file name contained an unexpected NUL byte")
  else if pathLimit < path.utf8ByteSize then .error .nameTooLong
  else names.foldlM tree.step
    (if FilePath.isAbsolute path then [] else tree.workingDirectory)

def locate (tree : FileTree) (path : String) : Except Obstacle Location :=
  if path = "" then .error .absent else tree.follow path (FilePath.names path)

/-- The directory in which a path names something, and the name there. -/
def locateLast (tree : FileTree) (path : String) :
    Except Obstacle (Location × String) :=
  match (FilePath.names path).reverse.dropWhile (· = "") with
  | [] => .error (if path = "" then .absent else .taken)
  | name :: before => do
      let here ← tree.follow path before.reverse
      if tree.node? here ≠ some .directory then .error .isNoDirectory
      else if nameLimit < name.utf8ByteSize then .error .nameTooLong
      else return (here, name)

def put (tree : FileTree) (location : Location) (node : FileNode) : FileTree :=
  { tree with
    nodes :=
      tree.nodes.filter (fun entry => entry.1 ≠ location) ++
        [(location, node)] }

def entries (tree : FileTree) (location : Location) : List DirectoryEntry :=
  tree.nodes.filterMap fun (found, node) =>
    match found.getLast? with
    | some name =>
        if found.dropLast = location then
          some ⟨name.toUTF8.toList, node.content?.map .ok⟩
        else none
    | none => none

def nodeAt (tree : FileTree) (path : String) :
    Except Obstacle (Location × FileNode) := do
  let location ← tree.locate path
  match tree.node? location with
  | none => .error .absent
  | some node => return (location, node)

def placeAt (tree : FileTree) (path : String) : Place :=
  match tree.nodeAt path with
  | .error obstacle => .unreachable obstacle
  | .ok (_, .file content) => .file (.ok content)
  | .ok (location, .directory) => .directory (.ok (tree.entries location))

def makeDirectory (tree : FileTree) (path : String) :
    Except Obstacle FileTree := do
  let (here, name) ← tree.locateLast path
  if name = "." ∨ name = ".." ∨ tree.node? (here ++ [name]) ≠ none then
    .error .taken
  else return tree.put (here ++ [name]) .directory

def write (tree : FileTree) (path : String) (content : List UInt8) :
    Except Obstacle FileTree := do
  let (here, name) ← tree.locateLast path
  if FilePath.endsInSlash path ∨ name = "." ∨ name = ".." ∨
      tree.node? (here ++ [name]) = some .directory then
    .error .isDirectory
  else return tree.put (here ++ [name]) (.file content)

def update (change : FileTree → Except Obstacle FileTree) :
    StateM FileTree (Except Obstacle Unit) := do
  match change (← get) with
  | .error obstacle => return .error obstacle
  | .ok changed =>
      set changed
      return .ok ()

def access : FileAccess (StateM FileTree) where
  kindAt path := return ((← get).nodeAt path).map fun found => found.2.kind
  placeAt path := return (← get).placeAt path
  makeDirectory path := update fun tree => tree.makeDirectory path
  write path content := update fun tree => tree.write path content

end FileTree

end RowAudit
