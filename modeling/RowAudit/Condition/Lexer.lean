import RowAudit.Column
import RowAudit.Condition.Choices

namespace RowAudit.Condition.Lexer

def splitExponent (cs : List Char) : List Char × List Char :=
  match cs with
  | mark :: rest =>
      let sign := rest.takeWhile fun c => c = '+' || c = '-'
      let body := rest.dropWhile fun c => c = '+' || c = '-'
      let digits := body.takeWhile Char.isDigit
      if (mark = 'e' || mark = 'E') && sign.length ≤ 1 && digits ≠ [] then
        (mark :: (sign ++ digits), body.dropWhile Char.isDigit)
      else ([], cs)
  | [] => ([], [])

def splitFraction (cs : List Char) : List Char × List Char :=
  match cs with
  | '.' :: rest =>
      let digits := rest.takeWhile Char.isDigit
      if digits = [] then ([], cs)
      else ('.' :: digits, rest.dropWhile Char.isDigit)
  | _ => ([], cs)

/-- Cuts off the longest numeral; it has no sign, and digits on at least one
side of the point. -/
def splitNumeral (cs : List Char) : List Char × List Char :=
  let whole := cs.takeWhile Char.isDigit
  let (fraction, afterFraction) := splitFraction (cs.dropWhile Char.isDigit)
  if whole = [] && fraction = [] then ([], cs)
  else
    let (exponent, rest) := splitExponent afterFraction
    (whole ++ fraction ++ exponent, rest)

theorem splitExponent_append (cs : List Char) :
    (splitExponent cs).1 ++ (splitExponent cs).2 = cs := by
  cases cs with
  | nil => rfl
  | cons mark rest =>
      simp only [splitExponent]
      split
      · simp [List.append_assoc, List.takeWhile_append_dropWhile]
      · rfl

theorem splitFraction_append (cs : List Char) :
    (splitFraction cs).1 ++ (splitFraction cs).2 = cs := by
  unfold splitFraction
  split
  · next rest =>
      by_cases none : rest.takeWhile Char.isDigit = []
      · simp [none]
      · simp [none, List.takeWhile_append_dropWhile]
  · rfl

theorem splitNumeral_append (cs : List Char) :
    (splitNumeral cs).1 ++ (splitNumeral cs).2 = cs := by
  simp only [splitNumeral]
  split
  · rfl
  · simp [List.append_assoc, splitExponent_append, splitFraction_append,
      List.takeWhile_append_dropWhile]

def number? (cs : List Char) : Option (Expr × List Char) :=
  let (numeral, rest) := splitNumeral cs
  if numeral = [] then none
  else (Numeral.read? numeral).map fun parts =>
    (.literal (.number parts.toDouble), rest)

def named (name : List Char) : Expr :=
  if name = "true".toList then .literal (.bool true)
  else if name = "false".toList then .literal (.bool false)
  else if name = "null".toList ∨ name = "undefined".toList then .literal .null
  else .column (Column.normalize (String.ofList name))

def name? (cs : List Char) : Option (Expr × List Char) :=
  if cs.head?.any isNameStart then
    some (named (cs.takeWhile isNameChar), cs.dropWhile isNameChar)
  else none

def operand? (cs : List Char) : Option (Expr × List Char) :=
  (choices? cs).or <| (number? cs).or <|
    ((quoted? cs).map fun (body, rest) =>
      (.literal (.ofText (String.ofList body)), rest)).or <|
      name? cs

/-- The operators between operands, each before those that its symbol begins
with. -/
def binaryOperators : List BinaryOperator :=
  [.or, .and, .identical, .distinct, .equal, .unequal, .lessEqual,
    .greaterEqual, .less, .greater,
    .add, .subtract, .multiply, .divide, .remainder]

def binaryOperator? (cs : List Char) : Option (BinaryOperator × List Char) :=
  (binaryOperators.find? fun op => op.symbol.toList.isPrefixOf cs).map fun op =>
    (op, cs.drop op.symbol.toList.length)

def unaryOperator? : List Char → Option (UnaryOperator × List Char)
  | '!' :: rest => some (.not, rest)
  | '-' :: rest => some (.negate, rest)
  | _ => none

def primary? (cs : List Char) : Option (Token × Expectation × List Char) :=
  match operand? cs, cs with
  | some (e, rest), _ => some (.operand e, .operator, rest)
  | none, '(' :: rest => some (.opening, .operand, rest)
  | none, _ => none

def signed? (cs : List Char) : Option (Token × Expectation × List Char) :=
  match unaryOperator? cs with
  | some (op, rest) => some (.unary op, .signedOperand, rest)
  | none => primary? cs

def token? : Expectation → List Char → Option (Token × Expectation × List Char)
  | .operand, cs =>
      match choices? cs with
      | some (e, rest) => some (.operand e, .operator, rest)
      | none => signed? cs
  | .signedOperand, cs => signed? cs
  | .operator, ')' :: rest => some (.closing, .operator, rest)
  | .operator, cs =>
      (binaryOperator? cs).map fun (op, rest) => (.binary op, .operand, rest)

theorem length_number {cs after : List Char} {e : Expr}
    (found : number? cs = some (e, after)) : after.length < cs.length := by
  simp only [number?] at found
  split at found
  · simp at found
  · next nonempty =>
      obtain ⟨parts, -, same⟩ := Option.map_eq_some_iff.mp found
      obtain ⟨-, rfl⟩ := Prod.mk.inj same
      have whole := congrArg List.length (splitNumeral_append cs)
      have positive := List.length_pos_iff.mpr nonempty
      simp only [List.length_append] at whole
      omega

theorem isNameChar_of_isNameStart {c : Char} (start : isNameStart c = true) :
    isNameChar c = true := by
  simp only [isNameStart, isNameChar, isAlphanumeric, Bool.or_eq_true]
    at start ⊢
  rcases start with (alpha | underscore) | dollar <;> simp [*]

theorem length_name {cs after : List Char} {e : Expr}
    (found : name? cs = some (e, after)) : after.length < cs.length := by
  simp only [name?] at found
  split at found
  · next start =>
      obtain ⟨-, rfl⟩ := Prod.mk.inj (Option.some.inj found)
      apply length_dropWhile_lt
      cases cs with
      | nil => simp at start
      | cons c rest =>
          have := isNameChar_of_isNameStart (c := c) (by simpa using start)
          simp [this]
  · simp at found

theorem length_operand {cs after : List Char} {e : Expr}
    (found : operand? cs = some (e, after)) : after.length < cs.length := by
  simp only [operand?, Option.or_eq_some_iff] at found
  rcases found with chosen | ⟨-, counted | ⟨-, spelt | ⟨-, meant⟩⟩⟩
  · exact length_choices chosen
  · exact length_number counted
  · obtain ⟨⟨body, rest⟩, eq, same⟩ := Option.map_eq_some_iff.mp spelt
    obtain ⟨-, rfl⟩ := Prod.mk.inj same
    exact length_quoted eq
  · exact length_name meant

theorem length_binaryOperator {cs after : List Char} {op : BinaryOperator}
    (found : binaryOperator? cs = some (op, after)) :
    after.length < cs.length := by
  simp only [binaryOperator?] at found
  obtain ⟨other, eq, same⟩ := Option.map_eq_some_iff.mp found
  obtain ⟨rfl, rfl⟩ := Prod.mk.inj same
  have starts : other.symbol.toList.isPrefixOf cs = true :=
    List.find?_some
      (p := fun op : BinaryOperator => op.symbol.toList.isPrefixOf cs) eq
  have := (List.isPrefixOf_iff_prefix.mp starts).length_le
  have : 0 < other.symbol.toList.length := by cases other <;> decide
  simp only [List.length_drop]
  omega

theorem length_primary {cs after : List Char} {token : Token}
    {next : Expectation} (found : primary? cs = some (token, next, after)) :
    after.length < cs.length := by
  simp only [primary?] at found
  split at found
  · next eq =>
      obtain ⟨-, -, rfl⟩ := by simpa using found
      exact length_operand eq
  · obtain ⟨-, -, rfl⟩ := by simpa using found
    simp
  · simp at found

theorem length_signed {cs after : List Char} {token : Token}
    {next : Expectation} (found : signed? cs = some (token, next, after)) :
    after.length < cs.length := by
  simp only [signed?] at found
  split at found
  · next eq =>
      obtain ⟨-, -, rfl⟩ := by simpa using found
      simp only [unaryOperator?] at eq
      split at eq
      · obtain ⟨-, rfl⟩ := by simpa using eq
        simp
      · obtain ⟨-, rfl⟩ := by simpa using eq
        simp
      · simp at eq
  · exact length_primary found

theorem length_token {expected next : Expectation} {cs after : List Char}
    {token : Token} (found : token? expected cs = some (token, next, after)) :
    after.length < cs.length := by
  unfold token? at found
  split at found
  · split at found
    · next eq =>
        obtain ⟨-, -, rfl⟩ := by simpa using found
        exact length_choices eq
    · exact length_signed found
  · exact length_signed found
  · obtain ⟨-, -, rfl⟩ := by simpa using found
    simp
  · obtain ⟨⟨op, rest⟩, eq, same⟩ := Option.map_eq_some_iff.mp found
    obtain ⟨-, -, rfl⟩ := by simpa using same
    exact length_binaryOperator eq

/-- Cuts a text into tokens; it has to end behind an operand. -/
def tokens? (expected : Expectation) (cs : List Char) : Option (List Token) :=
  match _start : skipSpace cs with
  | [] => if expected = .operator then some [] else none
  | c :: rest =>
      match _found : token? expected (c :: rest) with
      | none => none
      | some (token, next, after) => (tokens? next after).map (token :: ·)
termination_by cs.length
decreasing_by
  have shorter := length_token _found
  have whole := length_skipSpace_le cs
  rw [_start] at whole
  omega

end RowAudit.Condition.Lexer
