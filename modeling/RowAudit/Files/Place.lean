namespace RowAudit

inductive Obstacle where
  | absent
  | taken
  | isDirectory
  | isNoDirectory
  | nameTooLong
  | other (reason : String)
  deriving DecidableEq

def Obstacle.message : Obstacle → String
  | .absent => "No such file or directory (os error 2)"
  | .taken => "File exists (os error 17)"
  | .isDirectory => "Is a directory (os error 21)"
  | .isNoDirectory => "Not a directory (os error 20)"
  | .nameTooLong => "File name too long (os error 36)"
  | .other reason => reason

inductive FileKind where
  | file
  | directory
  deriving DecidableEq

/-- A file in a directory, with what it holds or what stands in the way of
reading it. The name need not be a text. -/
structure ListedFile where
  name : List UInt8
  content : Except Obstacle (List UInt8)

/-- What a directory lists: a file, or something else that has no content. -/
structure DirectoryEntry where
  name : List UInt8
  content : Option (Except Obstacle (List UInt8))

inductive Place where
  | unreachable (obstacle : Obstacle)
  | file (content : Except Obstacle (List UInt8))
  | directory (entries : Except Obstacle (List DirectoryEntry))

end RowAudit
