import RowAudit.Proofs.Condition.Operand

namespace RowAudit.Condition.Lexer

theorem tokens?_eq (expected : Expectation) (cs : List Char) :
    tokens? expected cs =
      if skipSpace cs = [] then if expected = .operator then some [] else none
      else (token? expected (skipSpace cs)).bind fun found =>
        (tokens? found.2.1 found.2.2).map (found.1 :: ·) := by
  rw [tokens?]
  split
  · next none => rw [if_pos none]
  · next c rest start =>
      rw [start, if_neg (List.cons_ne_nil c rest)]
      split
      · next none => rw [none, Option.bind_none]
      · next token next after found => rw [found, Option.bind_some]

theorem tokens?_nil : tokens? .operator [] = some [] := by
  rw [tokens?_eq]
  rfl

theorem tokens?_of_token? {expected next : Expectation} {cs after : List Char}
    {token : Token} (notSpace : skipSpace cs = cs)
    (found : token? expected cs = some (token, next, after)) :
    tokens? expected cs = (tokens? next after).map (token :: ·) := by
  have nonempty : cs ≠ [] :=
    List.ne_nil_of_length_pos (Nat.zero_lt_of_lt (length_token found))
  rw [tokens?_eq, notSpace, if_neg nonempty, found, Option.bind_some]

theorem tokens?_space (expected : Expectation) (cs : List Char) :
    tokens? expected (' ' :: cs) = tokens? expected cs := by
  rw [tokens?_eq, tokens?_eq expected cs]
  rfl

/-! Operators between operands stand in spaces, and those in front of operands
right in front of them. -/

theorem ends_symbol (op : BinaryOperator) (rest : List Char) :
    Ends (' ' :: (op.symbol.toList ++ ' ' :: rest)) := by
  refine ⟨?_, fun c member => .inl (Option.some.inj member).symm⟩
  cases op <;> rfl

theorem tokens?_symbol (op : BinaryOperator) (rest : List Char) :
    tokens? .operator (' ' :: (op.symbol.toList ++ ' ' :: rest)) =
      (tokens? .operand rest).map (.binary op :: ·) := by
  have found : token? .operator (op.symbol.toList ++ ' ' :: rest) =
      some (.binary op, .operand, ' ' :: rest) := by
    cases op <;> rfl
  have notSpace :
      skipSpace (op.symbol.toList ++ ' ' :: rest) = op.symbol.toList ++ ' ' ::
      rest := by
    cases op <;> rfl
  rw [tokens?_space, tokens?_of_token? notSpace found, tokens?_space]

theorem tokens?_closing (rest : List Char) :
    tokens? .operator (')' :: rest) =
      (tokens? .operator rest).map (.closing :: ·) :=
  tokens?_of_token? rfl rfl

theorem tokens?_opening {expected : Expectation}
    (awaited : expected ≠ .operator) (rest : List Char) :
    tokens? expected ('(' :: rest) =
      (tokens? .operand rest).map (.opening :: ·) := by
  refine tokens?_of_token? rfl ?_
  cases expected with
  | operand => rfl
  | signedOperand => rfl
  | operator => exact absurd rfl awaited

theorem tokens?_unary {expected : Expectation} (awaited : expected ≠ .operator)
    (op : UnaryOperator) {rest : List Char} (backsOff : BacksOff rest) :
    tokens? expected (op.symbol.toList ++ rest) =
      (tokens? .signedOperand rest).map (.unary op :: ·) := by
  have noChoices : choices? (op.symbol.toList ++ rest) = none := by
    cases op with
    | not => rfl
    | negate => exact (backsOff.cons_of_isChoiceChar rfl).choices?_eq_none rfl
  have notSpace :
      skipSpace (op.symbol.toList ++ rest) = op.symbol.toList ++ rest := by
    cases op <;> rfl
  have signed : signed? (op.symbol.toList ++ rest) =
      some (.unary op, .signedOperand, rest) := by
    cases op <;> rfl
  refine tokens?_of_token? notSpace ?_
  cases expected with
  | operand => rw [token?, noChoices]; exact signed
  | signedOperand => exact signed
  | operator => exact absurd rfl awaited

/-! Operands. -/

theorem tokens?_operand {expected : Expectation}
    (awaited : expected ≠ .operator) {cs after : List Char} {e : Expr}
    (notSpace : skipSpace cs = cs) (noChoices : choices? cs = none)
    (unsigned : unaryOperator? cs = none)
    (read : operand? cs = some (e, after)) :
    tokens? expected cs = (tokens? .operator after).map (.operand e :: ·) := by
  have signed : signed? cs = some (.operand e, .operator, after) := by
    simp only [signed?, unsigned, primary?, read]
  refine tokens?_of_token? notSpace ?_
  cases expected with
  | operand => rw [token?, noChoices]; exact signed
  | signedOperand => exact signed
  | operator => exact absurd rfl awaited

def isPlain (c : Char) : Bool :=
  isNameChar c || c = '.'

theorem of_isPlain {c : Char} (plain : isPlain c = true) :
    isQuote c = false ∧ isSpace c = false ∧ c ≠ '!' ∧ c ≠ '-' ∧
      (isChoiceChar c = true ∨ c = '$') := by
  have ascii : c.toNat < 128 := by
    simp only [isPlain, Bool.or_eq_true, decide_eq_true_eq] at plain
    rcases plain with nameChar | rfl
    · exact ascii_of_isNameChar nameChar
    · decide
  exact Text.forall_ascii (p := fun c => isPlain c = true →
      isQuote c = false ∧ isSpace c = false ∧ c ≠ '!' ∧ c ≠ '-' ∧
      (isChoiceChar c = true ∨ c = '$'))
    (by decide +kernel) c ascii plain

theorem not_numeral_of_isNameStart {c : Char} (start : isNameStart c = true) :
    c.isDigit = false ∧ c ≠ '.' :=
  Text.forall_ascii
    (p := fun c => isNameStart c = true → c.isDigit = false ∧ c ≠ '.')
    (by decide +kernel) c
    (ascii_of_isNameChar (isNameChar_of_isNameStart start)) start

theorem tokens?_read {expected : Expectation} (awaited : expected ≠ .operator)
    {c : Char} {cs rest : List Char} {e : Expr} (plain : isPlain c = true)
    (chars : ∀ d ∈ cs, isChoiceChar d = true ∨ d = '$')
    (restBacksOff : BacksOff rest)
    (read : (number? (c :: cs ++ rest)).or (name? (c :: cs ++ rest)) =
      some (e, rest)) :
    tokens? expected (c :: cs ++ rest) =
      (tokens? .operator rest).map (.operand e :: ·) := by
  obtain ⟨notQuote, notSpace, notNot, notMinus, first⟩ := of_isPlain plain
  have backsOff : BacksOff (c :: cs ++ rest) :=
    .append (List.forall_mem_cons.mpr ⟨first, chars⟩) restBacksOff
  have unquoted : quoted? (c :: cs ++ rest) = none := quoted?_eq_none notQuote
  have noChoices := backsOff.choices?_eq_none unquoted
  apply tokens?_operand awaited
  · exact List.dropWhile_cons_of_neg (by simp [notSpace])
  · exact noChoices
  · rw [unaryOperator?.eq_def]
    split
    · next same => exact absurd (List.cons.inj same).1 notNot
    · next same => exact absurd (List.cons.inj same).1 notMinus
    · rfl
  · rw [operand?, noChoices, unquoted]
    exact read

theorem tokens?_name_of_stops {expected : Expectation}
    (awaited : expected ≠ .operator) {name rest : List Char}
    (start : name.head?.any isNameStart = true)
    (chars : ∀ c ∈ name, isNameChar c = true) (backsOff : BacksOff rest)
    (stops : ∀ c ∈ rest.head?, isNameChar c = false) :
    tokens? expected (name ++ rest) =
      (tokens? .operator rest).map (.operand (named name) :: ·) := by
  have read := name?_append start chars stops
  obtain ⟨c, name, rfl⟩ := List.exists_cons_of_ne_nil (show name ≠ [] by
    intro empty
    subst empty
    cases start)
  obtain ⟨notDigit, notPoint⟩ :=
    not_numeral_of_isNameStart (c := c) (by simpa using start)
  have plain : ∀ d ∈ c :: name, isPlain d = true := by
    intro d member
    rw [isPlain, chars d member, Bool.true_or]
  obtain ⟨first, later⟩ := List.forall_mem_cons.mp plain
  refine tokens?_read awaited first
    (fun d member => (of_isPlain (later d member)).2.2.2.2) backsOff ?_
  rw [List.cons_append, number?_eq_none notDigit notPoint, Option.none_or]
  exact read

theorem tokens?_name {expected : Expectation} (awaited : expected ≠ .operator)
    {name rest : List Char} (start : name.head?.any isNameStart = true)
    (chars : ∀ c ∈ name, isNameChar c = true) (ends : Ends rest) :
    tokens? expected (name ++ rest) =
      (tokens? .operator rest).map (.operand (named name) :: ·) :=
  tokens?_name_of_stops awaited start chars (.of_ends ends) (ends.stops rfl rfl)

theorem tokens?_name_equality {name : String} (isName : IsName name)
    {op : BinaryOperator} (equality : op = .equal ∨ op = .unequal)
    {rest : List Char} (notEqual : ∀ c ∈ rest.head?, c ≠ '=') :
    tokens? .operand (name.toList ++ (op.symbol.toList ++ rest)) =
      (tokens? .operand rest).map fun tokens =>
        .operand (.column name) :: .binary op :: tokens := by
  have shorter : ['='].isPrefixOf rest = false := by
    cases rest with
    | nil => rfl
    | cons c rest =>
        rw [List.isPrefixOf, beq_false_of_ne (notEqual c rfl).symm,
          Bool.false_and]
  have operator :
      token? .operator (op.symbol.toList ++ rest) =
        some (.binary op, .operand, rest) := by
    rcases equality with rfl | rfl
    · simp [token?, binaryOperator?, binaryOperators,
        BinaryOperator.symbol, shorter]
    · simp [token?, binaryOperator?, binaryOperators,
        BinaryOperator.symbol, shorter]
  obtain ⟨c, cs, symbol, other, notSpace, notPipe, notNameChar⟩ : ∃ c cs,
    op.symbol.toList = c :: cs ∧
      isChoiceChar c = false ∧ isSpace c = false ∧ c ≠ '|' ∧
      isNameChar c = false := by
    rcases equality with rfl | rfl
    · exact ⟨'=', ['='], rfl, rfl, rfl, by decide, rfl⟩
    · exact ⟨'!', ['='], rfl, rfl, rfl, by decide, rfl⟩
  have backsOff : BacksOff (op.symbol.toList ++ rest) := by
    rw [symbol]
    exact .cons_of_not_isChoiceChar other notSpace notPipe
  have stops :
      ∀ d ∈ (op.symbol.toList ++ rest).head?, isNameChar d = false := by
    intro d head
    rw [symbol] at head
    obtain rfl := Option.some.inj head
    exact notNameChar
  have awaited :
      skipSpace (op.symbol.toList ++ rest) = op.symbol.toList ++ rest := by
    rw [symbol]
    exact List.dropWhile_cons_of_neg (by simp [notSpace])
  rw [tokens?_name_of_stops
    (by decide) isName.start isName.chars backsOff stops, isName.named_eq,
    tokens?_of_token? awaited operator, Option.map_map]
  rfl

theorem isPlain_of_spells {cs : List Char} {n : Numeral}
    (spells : n.Spells cs) : ∀ c ∈ cs, isPlain c = true := by
  have digits : ∀ c : Char, c.isDigit = true → isPlain c = true := by
    intro c digit
    simp [isPlain, isNameChar, isAlphanumeric, digit]
  exact spells.forall_mem digits rfl

theorem isChoiceChar_of_mem_exponent {exponent : List Char} {scale : Int}
    (scaled : Numeral.SpellsExponent exponent scale) :
    ∀ c ∈ exponent, isChoiceChar c = true := by
  intro c member
  cases scaled with
  | absent => cases member
  | present isMark negative nonempty digits =>
      rcases List.mem_cons.mp member with rfl | member
      · rcases isMark with rfl | rfl <;> rfl
      · rcases List.mem_append.mp member with sign | digit
        · cases negative with
          | false => cases sign
          | true =>
              obtain rfl := List.mem_singleton.mp sign
              rfl
        · simp [isChoiceChar, isAlphanumeric, digits c digit]

theorem isChoiceChar_of_spells {cs : List Char} {n : Numeral}
    (spells : n.Spells cs) : ∀ c ∈ cs, isChoiceChar c = true := by
  have digits : ∀ c : Char, c.isDigit = true → isChoiceChar c = true := by
    intro c digit
    simp [isChoiceChar, isAlphanumeric, digit]
  exact spells.forall_mem digits rfl

theorem tokens?_numeral {expected : Expectation}
    (awaited : expected ≠ .operator) {cs exponent rest : List Char}
    {n : Numeral} {scale : Int} (spells : n.Spells cs)
    (scaled : Numeral.SpellsExponent exponent scale) (ends : Ends rest) :
    tokens? expected (cs ++ (exponent ++ rest)) = (tokens? .operator rest).map
      (.operand (.literal
        (.number ({ n with exponent := scale } : Numeral).toDouble)) :: ·) := by
  have read := number?_of_spells scaled spells ends
  have plain := isPlain_of_spells spells
  have chars := isChoiceChar_of_spells spells
  obtain ⟨c, cs, rfl⟩ := List.exists_cons_of_ne_nil spells.ne_nil
  rw [← List.append_assoc, List.cons_append] at read ⊢
  refine tokens?_read awaited (plain c List.mem_cons_self) ?_ (.of_ends ends) ?_
  · intro d member
    rcases List.mem_append.mp member with digit | power
    · exact .inl (chars d (List.mem_cons_of_mem c digit))
    · exact .inl (isChoiceChar_of_mem_exponent scaled d power)
  · rw [read, Option.some_or]

theorem tokens?_number {expected : Expectation} (awaited : expected ≠ .operator)
    {cs rest : List Char} {n : Numeral} (spells : n.Spells cs)
    (ends : Ends rest) :
    tokens? expected (cs ++ rest) =
      (tokens? .operator rest).map
        (.operand (.literal (.number n.toDouble)) :: ·) := by
  have found : tokens? expected (cs ++ ([] ++ rest)) = _ :=
    tokens?_numeral awaited spells .absent ends
  rw [List.nil_append] at found
  rw [found]
  cases spells <;> rfl

theorem tokens?_quoteText {expected : Expectation}
    (awaited : expected ≠ .operator) {text : String}
    (lower : Text.lower text = text) (plain : '\\' ∉ text.toList)
    {rest : List Char} (ends : Ends rest) :
    tokens? expected (quoteText text ++ rest) =
      (tokens? .operator rest).map (.operand (.literal (.text text)) :: ·) := by
  have quoted := quoted?_quoteText plain rest
  have noChoices := choices?_eq_none_of_quoted quoted ends.noPipe
  have unnumbered : number? (quoteText text ++ rest) = none :=
    number?_eq_none rfl (by decide)
  apply tokens?_operand awaited rfl noChoices rfl
  rw [operand?, noChoices, unnumbered, quoted]
  simp [Value.ofText, lower]

end RowAudit.Condition.Lexer
