namespace RowAudit.Text

def decode? (bytes : List UInt8) : Option String :=
  String.fromUTF8? ⟨bytes.toArray⟩

/-- How many of the bytes encode the first character, which takes up to four
of them. -/
def firstLength? (bytes : List UInt8) : Option Nat :=
  [1, 2, 3, 4].find? fun count => (decode? (bytes.take count)).isSome

def decodableLength : List UInt8 → Nat
  | [] => 0
  | byte :: rest =>
      match firstLength? (byte :: rest) with
      | some count => count + decodableLength (rest.drop (count - 1))
      | none => 0
termination_by bytes => bytes.length
decreasing_by simp only [List.length_drop, List.length_cons]; omega

/-- Whether bytes begin a character that others would complete. -/
def breaksOff (bytes : List UInt8) : Bool :=
  let completions : List (List UInt8) :=
    [[0x80], [0xBF], [0x80, 0x80], [0xBF, 0x80], [0x80, 0x80, 0x80],
      [0xBF, 0x80, 0x80]]
  completions.any fun rest => (decode? (bytes ++ rest)).isSome

/-- The characters of bytes where not all of them encode text: what breaks off
is replaced as a whole, what begins no character byte by byte. -/
def repaired : List UInt8 → List Char
  | [] => []
  | byte :: rest =>
      match firstLength? (byte :: rest) with
      | some count =>
          ((decode? ((byte :: rest).take count)).map String.toList).getD [] ++
            repaired (rest.drop (count - 1))
      | none =>
          let broken :=
            [3, 2].find? fun count => breaksOff ((byte :: rest).take count)
          '\ufffd' :: repaired (rest.drop (broken.getD 1 - 1))
termination_by bytes => bytes.length
decreasing_by all_goals simp only [List.length_drop, List.length_cons]; omega

def decodeLossy (bytes : List UInt8) : String :=
  (decode? bytes).getD (String.ofList (repaired bytes))

end RowAudit.Text
