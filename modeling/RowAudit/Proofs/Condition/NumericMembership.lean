import RowAudit.Proofs.Condition.Display
import RowAudit.Proofs.Condition.Membership
import RowAudit.Proofs.Condition.Order
import RowAudit.Proofs.Sheet.Retold

/-!
The condition that a column has one of several numbers. Alone a numeral is
compared as a number; among choices it is a text, which is looked for as the
text that a cell shows. So it is found just if the numbers are equal and the
numeral is written as cells write its number.
-/

namespace RowAudit

namespace Decimal

theorem neg_toDouble (d : Decimal) : -d.toDouble false = d.toDouble true := by
  rw [toDouble, toDouble]
  split
  · rfl
  · split
    · rfl
    · rw [Double.round, Double.round, Double.ofUnits, Double.ofUnits]
      split <;> rfl

end Decimal

namespace Condition

open Lexer

/-! Words and figures. -/

theorem lowerChar_of_isChoiceChar {c : Char}
    (choiceChar : isChoiceChar c = true) :
    c ≠ 'Σ' ∧ Text.lowerChar c = [c.toLower] ∧ Text.isBlank c.toLower = false ∧
      (isFigure c.toLower = true → c.toLower = c) :=
  Text.forall_ascii (p := fun c => isChoiceChar c = true →
      c ≠ 'Σ' ∧ Text.lowerChar c = [c.toLower] ∧
      Text.isBlank c.toLower = false ∧
        (isFigure c.toLower = true → c.toLower = c))
    (by decide +kernel) c (ascii_of_isChoiceChar choiceChar) choiceChar

theorem lowerEach_word {cs : List Char}
    (chars : ∀ c ∈ cs, isChoiceChar c = true) :
    Text.lowerEach cs = cs.map Char.toLower := by
  rw [List.map_eq_flatMap]
  exact List.flatMap_congr fun c member =>
    (lowerChar_of_isChoiceChar (chars c member)).2.1

theorem trimmed_lower_word {word : String}
    (chars : ∀ c ∈ word.toList, isChoiceChar c = true) :
    Text.trimmed (Text.lower word) =
      String.ofList (word.toList.map Char.toLower) := by
  have unsettled : ¬ Text.HasFinalSigma word.toList := by
    rintro ⟨front, rest, split, -⟩
    have sigma : 'Σ' ∈ word.toList := by
      rw [split]
      exact List.mem_append_right _ List.mem_cons_self
    exact (lowerChar_of_isChoiceChar (chars _ sigma)).1 rfl
  have solid : ∀ d ∈ word.toList.map Char.toLower, Text.isBlank d = false := by
    intro d member
    obtain ⟨c, among, rfl⟩ := List.mem_map.mp member
    exact (lowerChar_of_isChoiceChar (chars c among)).2.2.1
  rw [(Text.lower_eq_ofList_lowerEach_iff word).mpr unsettled,
    lowerEach_word chars, Text.trimmed, String.toList_ofList,
    Text.trim_of_solid solid]

theorem trimmed_lower_word_eq_iff {word figures : String}
    (chars : ∀ c ∈ word.toList, isChoiceChar c = true)
    (isFigures : ∀ c ∈ figures.toList, isFigure c = true) :
    Text.trimmed (Text.lower word) = figures ↔ word = figures := by
  have unchanged (every : ∀ c ∈ word.toList, isFigure c.toLower = true) :
      String.ofList (word.toList.map Char.toLower) = word := by
    have same : word.toList.map Char.toLower = word.toList.map id := by
      apply List.map_congr_left
      exact fun c member =>
        (lowerChar_of_isChoiceChar (chars c member)).2.2.2 (every c member)
    rw [same, List.map_id, String.ofList_toList]
  -- In lower case a letter stays a letter, and letters are no figures: so there
  -- is none, on either side.
  rw [trimmed_lower_word chars]
  constructor
  · rintro rfl
    rw [String.toList_ofList] at isFigures
    exact (unchanged fun c member =>
      isFigures c.toLower (List.mem_map_of_mem member)).symm
  · rintro rfl
    apply unchanged
    intro c member
    have lowered := (of_isFigure (isFigures c member)).2
    rw [(lowerChar_of_isChoiceChar (chars c member)).2.1, List.cons.injEq]
      at lowered
    rw [lowered.1]
    exact isFigures c member

/-- A numeral that a condition writes out: digits around a point, with or
without a minus in front and an exponent. -/
structure WrittenNumber where
  negative : Bool
  digits : List Char
  exponent : List Char
  unscaled : Numeral
  scale : Int
  spells : unscaled.Spells digits
  scaled : Numeral.SpellsExponent exponent scale

namespace WrittenNumber

def chars (d : WrittenNumber) : List Char :=
  Double.minus d.negative ++ (d.digits ++ d.exponent)

def text (d : WrittenNumber) : String :=
  String.ofList d.chars

def value (d : WrittenNumber) : Double :=
  ({ d.unscaled with negative := d.negative, exponent := d.scale } :
    Numeral).toDouble

/-- Whether the numeral is written as a cell shows its number. -/
def AsShown (d : WrittenNumber) : Prop :=
  d.text = d.value.cellText

variable (d : WrittenNumber)

theorem toList_text : d.text.toList = d.chars :=
  String.toList_ofList

theorem read?_chars :
    Numeral.read? d.chars =
      some { d.unscaled with negative := d.negative, exponent := d.scale } :=
  Numeral.read?_minus_exponent d.spells d.scaled d.negative

theorem isChoiceChar_of_mem_chars : ∀ c ∈ d.chars, isChoiceChar c = true := by
  intro c member
  rcases List.mem_append.mp member with sign | member
  · cases negative : d.negative with
    | false =>
        rw [negative] at sign
        cases sign
    | true =>
        rw [negative] at sign
        obtain rfl := List.mem_singleton.mp sign
        rfl
  · rcases List.mem_append.mp member with digit | power
    · exact isChoiceChar_of_spells d.spells c digit
    · exact isChoiceChar_of_mem_exponent d.scaled c power

theorem chars_ne_nil : d.chars ≠ [] :=
  List.append_ne_nil_of_right_ne_nil _
    (List.append_ne_nil_of_left_ne_nil d.spells.ne_nil _)

def choice : Choice :=
  .word d.text (d.toList_text ▸ d.chars_ne_nil)
    (d.toList_text ▸ d.isChoiceChar_of_mem_chars)

/-! What is shown of a number. -/

variable {x : Double}

theorem value_eq_of_text_eq {negative : Bool} {units : Nat}
    {representable : Double.Representable units}
    (same : d.text = (Double.finite negative units representable).cellText) :
    d.value = .finite (negative && units != 0) units representable := by
  obtain ⟨n, spells, reads⟩ := Double.exists_spells_positionalText representable
  rw [text, Double.cellText_eq_positionalText, String.ofList_inj] at same
  have read := d.read?_chars
  rw [same, Numeral.read?_minus spells] at read
  have unsigned :
      n.toDecimal.toDouble n.negative = .finite false units representable :=
    reads
  rw [spells.unsigned] at unsigned
  have signed : n.toDecimal.toDouble (negative && units != 0) = _ :=
    Decimal.toDouble_eq_finite_iff.mpr ⟨rfl, unsigned⟩
  rw [value, ← Option.some.inj read, ← signed]
  rfl

/-- A numeral is what a cell shows of a number just if it is equal to the number
and written as cells write it. -/
theorem text_eq_cellText_iff (finite : x.isFinite = true) :
    d.text = x.cellText ↔ x.equals d.value = true ∧ d.AsShown := by
  cases x with
  | nan => cases finite
  | infinite negative => cases finite
  | finite negative units representable =>
      constructor
      · intro same
        have value := d.value_eq_of_text_eq same
        have equal : (Double.finite negative units representable).equals
            d.value = true := by
          rw [value, Double.equals_finite_iff]
          refine ⟨rfl, ?_⟩
          cases negative <;> simp [Decidable.or_iff_not_imp_right]
        refine ⟨equal, ?_⟩
        rw [value] at equal
        rw [AsShown, same, value]
        exact Double.cellText_eq_of_equals equal
      · rintro ⟨equal, shown⟩
        obtain ⟨sign, other, otherRepresentable, value⟩ :=
          Double.exists_finite_of_equals equal
        rw [value] at equal
        rw [shown, value]
        exact (Double.cellText_eq_of_equals equal).symm

theorem isChosen_number (finite : x.isFinite = true)
    (choices : List WrittenNumber) :
    isChosen (.number x)
      ((choices.map choice).map fun choice =>
        Text.trimmed (Text.lower choice.text)) = true ↔
      ∃ d ∈ choices, x.equals d.value = true ∧ d.AsShown := by
  have solid : Text.trimmed x.cellText = x.cellText := by
    rw [Text.trimmed, Text.trim_of_solid (Double.solid_cellText finite),
      String.ofList_toList]
  have found (d : WrittenNumber) :
      Text.trimmed (Text.lower d.text) = x.cellText ↔
        x.equals d.value = true ∧ d.AsShown := by
    rw [← d.text_eq_cellText_iff finite]
    exact trimmed_lower_word_eq_iff
      (d.toList_text ▸ d.isChoiceChar_of_mem_chars)
      (Double.isFigure_of_mem_cellText finite)
  rw [isChosen, Value.toText, solid, List.contains_iff_mem, List.map_map,
    List.mem_map]
  exact exists_congr fun d => and_congr_right fun _ => found d

/-! The condition that compares a column with the numeral alone. -/

def comparison (op : BinaryOperator) (name : String) : String :=
  String.ofList (name.toList ++ op.symbol.toList ++ d.chars)

def magnitude : Double :=
  ({ d.unscaled with exponent := d.scale } : Numeral).toDouble

def expr : Expr :=
  if d.negative then .unary .negate (.literal (.number d.magnitude))
  else .literal (.number d.magnitude)

theorem evaluate_expr (row : Row) :
    d.expr.evaluate row = .ok (.number d.value) := by
  have value : d.value =
      ({ d.unscaled with exponent := d.scale } : Numeral).toDecimal.toDouble
      d.negative :=
    rfl
  have magnitude :
      d.magnitude = ({ d.unscaled with exponent := d.scale } :
        Numeral).toDecimal.toDouble false := by
    rw [← d.spells.unsigned]
    rfl
  rw [expr, value, magnitude]
  cases d.negative with
  | false => rfl
  | true =>
      rw [if_pos rfl, ← Decimal.neg_toDouble]
      rfl

def tokens : List Token :=
  (if d.negative then [.unary .negate] else []) ++
    [.operand (.literal (.number d.magnitude))]

theorem tokens?_magnitude {expected : Expectation}
    (awaited : expected ≠ .operator) {rest : List Char} (ends : Ends rest) :
    tokens? expected (d.digits ++ d.exponent ++ rest) =
      (tokens? .operator rest).map
        (.operand (.literal (.number d.magnitude)) :: ·) := by
  rw [List.append_assoc]
  exact tokens?_numeral awaited d.spells d.scaled ends

theorem tokens?_chars_append {rest : List Char} (ends : Ends rest) :
    tokens? .operand (d.chars ++ rest) =
      (tokens? .operator rest).map (d.tokens ++ ·) := by
  rw [chars, tokens]
  cases d.negative with
  | false => exact d.tokens?_magnitude (by decide) ends
  | true =>
      have backsOff : BacksOff (d.digits ++ d.exponent ++ rest) := by
        refine .append (fun c member => .inl ?_) (.of_ends ends)
        exact d.isChoiceChar_of_mem_chars c (List.mem_append_right _ member)
      have minus : Double.minus true = UnaryOperator.negate.symbol.toList := rfl
      rw [minus, List.append_assoc, tokens?_unary (by decide) .negate backsOff,
        d.tokens?_magnitude (by decide) ends, Option.map_map]
      rfl

theorem tokens?_chars : tokens? .operand d.chars = some d.tokens := by
  have found := d.tokens?_chars_append Ends.nil
  rwa [List.append_nil, tokens?_nil, Option.map_some, List.append_nil] at found

variable {name : String} {op : BinaryOperator}

theorem parse?_comparison (isName : IsName name)
    (equality : op = .equal ∨ op = .unequal) :
    Expr.parse? (d.comparison op name) =
      some (.binary op (.column name) d.expr) := by
  have notEqual : ∀ c ∈ d.chars.head?, c ≠ '=' := fun c first =>
    (of_isChoiceChar
      (d.isChoiceChar_of_mem_chars c (List.mem_of_mem_head? first))).2.2.2
  rw [Expr.parse?, comparison, String.toList_ofList, List.append_assoc,
    tokens?_name_equality isName equality notEqual, d.tokens?_chars,
    tokens, expr]
  cases d.negative <;> rcases equality with rfl | rfl <;> rfl

end WrittenNumber

def Satisfied (row : Row) (condition : String) : Prop :=
  isSatisfied (Expr.parse? condition) row = .ok true

variable {row : Row} {name : String} {x : Double} {op : BinaryOperator}

theorem isSatisfied_comparison (isName : IsName name)
    (held : row.get? name = some (.number x))
    (equality : op = .equal ∨ op = .unequal) (d : WrittenNumber) :
    isSatisfied (Expr.parse? (d.comparison op name)) row =
      .ok (op.apply (.number x) (.number d.value)).isTruthy := by
  rw [d.parse?_comparison isName equality]
  exact Expr.isSatisfied_binary (Expr.evaluate_column_of_get? held)
    (d.evaluate_expr row) trivial op

theorem isSatisfied_membership (isName : IsName name)
    (held : row.get? name = some (.number x)) {choices : List Choice}
    (several : 2 ≤ choices.length) :
    isSatisfied (Expr.parse? (membership .equal name choices)) row =
        .ok (isChosen (.number x)
          (choices.map fun choice => Text.trimmed (Text.lower choice.text))) ∧
      isSatisfied (Expr.parse? (membership .unequal name choices)) row =
        .ok !(isChosen (.number x)
          (choices.map fun choice =>
            Text.trimmed (Text.lower choice.text))) := by
  obtain ⟨first, second, others, rfl⟩ : ∃ first second others,
    choices = first :: second :: others := by
    match choices, several with
    | first :: second :: others, _ => exact ⟨first, second, others, rfl⟩
  have column : (Expr.column name).evaluate row = .ok (.number x) :=
    Expr.evaluate_column_of_get? held
  have literal :
      (Expr.literal (.ofText (joinedChoices first (second :: others)))).evaluate
      row =
      .ok (.ofText (joinedChoices first (second :: others))) := rfl
  obtain ⟨among, notAmong⟩ :=
    Expr.evaluate_of_choices column literal choices?_joinedChoices
  rw [parse?_membership isName (.inl rfl), parse?_membership isName (.inr rfl),
    isSatisfied, isSatisfied, Expr.isSatisfied, Expr.isSatisfied,
    among, notAmong]
  exact ⟨rfl, rfl⟩

/--
On a row that has a finite number in the column, a numeral alone asks whether
the numbers are equal. Among two or more of them, the column is one just if it
is equal to one that is written as cells write it; and it is none of them just
if it differs from all that are written so.
-/
theorem membership_of_numbers (isName : IsName name)
    (held : row.get? name = some (.number x)) (finite : x.isFinite = true)
    (choices : List WrittenNumber) (several : 2 ≤ choices.length) :
    (∀ d : WrittenNumber,
      isSatisfied (Expr.parse? (d.comparison .equal name)) row =
        .ok (x.equals d.value) ∧
        isSatisfied (Expr.parse? (d.comparison .unequal name)) row =
          .ok !(x.equals d.value)) ∧
    (Satisfied row (membership .equal name (choices.map WrittenNumber.choice)) ↔
      ∃ d ∈ choices, d.AsShown ∧ Satisfied row (d.comparison .equal name)) ∧
    (Satisfied row
      (membership .unequal name (choices.map WrittenNumber.choice)) ↔
      ∀ d ∈ choices, d.AsShown →
        Satisfied row (d.comparison .unequal name)) := by
  have alone (d : WrittenNumber) :
      isSatisfied (Expr.parse? (d.comparison .equal name)) row =
        .ok (x.equals d.value) ∧
        isSatisfied (Expr.parse? (d.comparison .unequal name)) row =
          .ok !(x.equals d.value) :=
    ⟨isSatisfied_comparison isName held (.inl rfl) d,
      isSatisfied_comparison isName held (.inr rfl) d⟩
  have many : 2 ≤ (choices.map WrittenNumber.choice).length := by
    rwa [List.length_map]
  obtain ⟨among, notAmong⟩ := isSatisfied_membership isName held many
  have chosen := WrittenNumber.isChosen_number finite choices
  refine ⟨alone, ?_, ?_⟩
  · have asked (d : WrittenNumber) :
        Satisfied row (d.comparison .equal name) ↔ x.equals d.value = true := by
      rw [Satisfied, (alone d).1, Except.ok.injEq]
    simp only [asked]
    rw [Satisfied, among, Except.ok.injEq, chosen]
    simp only [and_comm]
  · have asked (d : WrittenNumber) :
        Satisfied row (d.comparison .unequal name) ↔
          ¬ x.equals d.value = true := by
      rw [Satisfied, (alone d).2, Except.ok.injEq, Bool.not_eq_true',
        Bool.not_eq_true]
    simp only [asked]
    rw [Satisfied, notAmong, Except.ok.injEq, Bool.not_eq_true',
      ← Bool.not_eq_true, chosen]
    simp only [not_exists, not_and]
    exact forall_congr' fun d => forall_congr' fun _ => imp_not_comm

def minusFive : WrittenNumber :=
  ⟨true, ['5'], [], ⟨false, ['5'], none, 0⟩, 0,
    .whole (by decide) (List.all_eq_true.mp (by decide)), .absent⟩

def onePointZero : WrittenNumber :=
  ⟨false, ['1', '.', '0'], [], ⟨false, ['1'], some ['0'], 0⟩, 0,
    @Numeral.Spells.fraction ['1'] ['0'] (by decide)
      (List.all_eq_true.mp (by decide))
      (List.all_eq_true.mp (by decide)), .absent⟩

def twoHundred : WrittenNumber :=
  ⟨false, ['2'], ['e', '2'], ⟨false, ['2'], none, 0⟩, 2,
    .whole (by decide) (List.all_eq_true.mp (by decide)),
    @Numeral.SpellsExponent.present 'e' (.inl rfl) false ['2'] (by decide)
      (List.all_eq_true.mp (by decide))⟩

def two : Choice :=
  .word "2" (by decide) (List.all_eq_true.mp (by decide))

def wholeRow (n : Int) : Row :=
  ⟨[("x", .number (.ofInt n))]⟩

theorem membership_of_numbers_whole :
    membership .equal "x"
      ([minusFive, onePointZero, twoHundred].map WrittenNumber.choice) =
        "x==-5|1.0|2e2" ∧
      Satisfied (wholeRow (-5)) "x==-5|1.0|2e2" ∧
        ¬ Satisfied (wholeRow (-5)) "x!=-5|1.0|2e2" ∧
      ¬ Satisfied (wholeRow 200) "x==-5|1.0|2e2" ∧
        Satisfied (wholeRow 200) "x==2e2" := by
  have isName : IsName "x" := by decide +kernel
  have equal : membership .equal "x"
      ([minusFive, onePointZero, twoHundred].map WrittenNumber.choice) =
      "x==-5|1.0|2e2" := by decide +kernel
  have unequal :
      membership .unequal "x"
        ([minusFive, onePointZero, twoHundred].map WrittenNumber.choice) =
      "x!=-5|1.0|2e2" := by decide +kernel
  have alone : twoHundred.comparison .equal "x" = "x==2e2" := by decide +kernel
  have held (n : Int) : (wholeRow n).get? "x" = some (.number (.ofInt n)) := rfl
  obtain ⟨near, among, notAmong⟩ :=
    membership_of_numbers isName (held (-5)) (by decide +kernel)
    [minusFive, onePointZero, twoHundred] (by decide)
  obtain ⟨far, farAmong, -⟩ :=
    membership_of_numbers isName (held 200) (by decide +kernel)
    [minusFive, onePointZero, twoHundred] (by decide)
  rw [equal] at among farAmong
  rw [unequal] at notAmong
  have shown : minusFive.AsShown := by
    rw [WrittenNumber.AsShown]
    decide +kernel
  have notShown :
      ∀ d ∈ [onePointZero, twoHundred], d.text ≠ d.value.cellText := by
    decide +kernel
  have equalNear : (Double.ofInt (-5)).equals minusFive.value = true := by
    decide +kernel
  have unequalFar : (Double.ofInt 200).equals minusFive.value = false := by
    decide +kernel
  have equalFar : (Double.ofInt 200).equals twoHundred.value = true := by
    decide +kernel
  refine ⟨equal, ?_, ?_, ?_, ?_⟩
  · refine among.mpr ⟨minusFive, List.mem_cons_self, shown, ?_⟩
    rw [Satisfied, (near minusFive).1, equalNear]
  · intro missing
    have different := notAmong.mp missing minusFive List.mem_cons_self shown
    rw [Satisfied, (near minusFive).2, equalNear] at different
    cases different
  · intro found
    obtain ⟨d, member, shown, asked⟩ := farAmong.mp found
    rcases List.mem_cons.mp member with rfl | others
    · rw [Satisfied, (far minusFive).1, unequalFar] at asked
      cases asked
    · exact notShown d others shown
  · rw [← alone, Satisfied, (far twoHundred).1, equalFar]

/-- A number is equal to a numeral and yet not among choices with the same
numeral, as it is shown without a point. -/
theorem not_member_though_equal :
    Satisfied (wholeRow 1) "x==1.0" ∧ ¬ Satisfied (wholeRow 1) "x==1.0|2" := by
  have isName : IsName "x" := by decide +kernel
  have held : (wholeRow 1).get? "x" = some (.number (.ofInt 1)) := rfl
  have alone : onePointZero.comparison .equal "x" = "x==1.0" := by
    decide +kernel
  have choices :
      membership .equal "x" [onePointZero.choice, two] = "x==1.0|2" := by
    decide +kernel
  have equal :
      (BinaryOperator.equal.apply (.number (.ofInt 1))
        (.number onePointZero.value)).isTruthy = true := by
    decide +kernel
  have missed : isChosen (.number (.ofInt 1))
      ([onePointZero.choice, two].map fun choice =>
        Text.trimmed (Text.lower choice.text)) = false := by
    decide +kernel
  have several : 2 ≤ [onePointZero.choice, two].length := Nat.le_refl 2
  constructor
  · rw [← alone, Satisfied,
      isSatisfied_comparison isName held (.inl rfl), equal]
  · rw [← choices, Satisfied,
      (isSatisfied_membership isName held several).1, missed]
    exact fun found => nomatch found

end Condition

end RowAudit
