import RowAudit.Text.Pieces

namespace RowAudit.FilePath

/-- The names in a written path, some of which may be empty. -/
def names (path : String) : List String :=
  (Text.pieces '/' path.toList).map String.ofList

def ofNames (names : List String) : String :=
  String.ofList ((names.map String.toList).intersperse ['/']).flatten

def isAbsolute (path : String) : Bool :=
  path.toList.head? = some '/'

def endsInSlash (path : String) : Bool :=
  path.toList.getLast? = some '/'

def isIdle (name : String) : Bool :=
  name = "" || name = "."

def lastName (path : String) : String :=
  ((names path).filter fun name => !isIdle name).getLastD ""

/-- The path of a name in a directory; the empty path leads to the working
directory. -/
def within (directory name : String) : String :=
  if directory = "" ∨ endsInSlash directory then directory ++ name
  else directory ++ "/" ++ name

def parentsFrom : List String → List String
  | [] => []
  | name :: before =>
      if isIdle name then parentsFrom before
      else
        match before.dropWhile isIdle with
        | [] => []
        | directory => ofNames directory.reverse :: parentsFrom before

/-- The directories that a path leads through, the innermost first. The
directory that the path starts from is not among them. -/
def parents (path : String) : List String :=
  parentsFrom (names path).reverse

end RowAudit.FilePath
