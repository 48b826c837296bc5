import RowAudit.Delimited.Dialect

namespace RowAudit.Delimited

def needsQuotes (field : List Char) : Bool :=
  field.any fun c => c = ',' || c = '"' || c = '\r' || c = '\n'

def doubleQuotes (field : List Char) : List Char :=
  field.flatMap fun c => if c = '"' then ['"', '"'] else [c]

def writeField (field : List Char) : List Char :=
  if needsQuotes field then '"' :: doubleQuotes field ++ ['"'] else field

/-- A record without a single character is written as an empty pair of quotes,
lest it be taken for no record at all. -/
def writeRecord (fields : List (List Char)) : List Char :=
  let line := (fields.map writeField).intersperse [','] |>.flatten
  (if line = [] then ['"', '"'] else line) ++ ['\n']

def write (records : List (List (List Char))) : String :=
  String.ofList (records.flatMap writeRecord)

end RowAudit.Delimited
