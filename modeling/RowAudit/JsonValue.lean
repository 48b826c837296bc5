import RowAudit.Calendar.DateTime
import RowAudit.Double.Notation

namespace RowAudit

inductive JsonValue where
  | null
  | number (value : Double)
  | count (value : Nat)
  | text (value : String)
  | list (items : List JsonValue)
  | record (fields : List (String × JsonValue))

namespace JsonValue

def controlDigits (code : Nat) : List Char :=
  [Nat.digitChar (code / 16), Nat.digitChar (code % 16)]

/-- A character inside a quoted text; control characters are written as
escapes. -/
def escaped (c : Char) : List Char :=
  if c = '"' then ['\\', '"']
  else if c = '\\' then ['\\', '\\']
  else if c = '\n' then ['\\', 'n']
  else if c = '\r' then ['\\', 'r']
  else if c = '\t' then ['\\', 't']
  else if c = '\x08' then ['\\', 'b']
  else if c = '\x0c' then ['\\', 'f']
  else if c.toNat < 32 then '\\' :: 'u' :: '0' :: '0' :: controlDigits c.toNat
  else [c]

def quoted (s : String) : List Char :=
  '"' :: s.toList.flatMap escaped ++ ['"']

def newLine (depth : Nat) : List Char :=
  '\n' :: List.replicate (2 * depth) ' '

mutual

def chars (depth : Nat) : JsonValue → List Char
  | null => "null".toList
  | number value => value.dataText.toList
  | count value => Nat.toDigits 10 value
  | text value => quoted value
  | list [] => ['[', ']']
  | list (first :: others) =>
      '[' :: newLine (depth + 1) ++ first.chars (depth + 1) ++
        itemChars (depth + 1) others ++
        newLine depth ++ [']']
  | record [] => ['\x7b', '\x7d']
  | record ((key, value) :: others) =>
      '\x7b' :: newLine (depth + 1) ++ quoted key ++ ':' :: ' ' ::
        value.chars (depth + 1) ++
        fieldChars (depth + 1) others ++ newLine depth ++ ['\x7d']

def itemChars (depth : Nat) : List JsonValue → List Char
  | [] => []
  | item :: rest =>
      ',' :: newLine depth ++ item.chars depth ++ itemChars depth rest

def fieldChars (depth : Nat) : List (String × JsonValue) → List Char
  | [] => []
  | (key, value) :: rest =>
      ',' :: newLine depth ++ quoted key ++ ':' :: ' ' :: value.chars depth ++
        fieldChars depth rest

end

def render (json : JsonValue) : String :=
  String.ofList (json.chars 0)

end JsonValue

end RowAudit
