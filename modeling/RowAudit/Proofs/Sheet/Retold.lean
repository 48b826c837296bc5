import RowAudit.Cell
import RowAudit.Proofs.Condition.Operand
import RowAudit.Proofs.Double.Neat

/-!
What a cell shows of the text that it was read from. A text that is no plain
number is shown as it stands. A number is shown in the notation of cells, which
reads as the same number, so that two texts are shown alike only if they are
alike or spell one number.
-/

namespace RowAudit

namespace Text

theorem dropWhile_isBlank {cs : List Char}
    (solid : ∀ c ∈ cs, isBlank c = false) : cs.dropWhile isBlank = cs := by
  cases cs with
  | nil => rfl
  | cons c rest =>
      exact List.dropWhile_cons_of_neg (by simp [solid c List.mem_cons_self])

theorem trim_of_solid {cs : List Char} (solid : ∀ c ∈ cs, isBlank c = false) :
    trim cs = cs := by
  rw [trim, dropWhile_isBlank solid, dropWhile_isBlank, List.reverse_reverse]
  exact fun c member => solid c (List.mem_reverse.mp member)

theorem trimmed_of_allBlank {s : String} (blank : allBlank s = true) :
    trimmed s = "" := by
  have nothing : s.toList.dropWhile isBlank = [] :=
    List.dropWhile_eq_nil_iff.mpr (List.all_eq_true.mp blank)
  rw [trimmed, trim, nothing]
  rfl

theorem trim_eq_of_trimmed_eq {left right : String}
    (same : trimmed left = trimmed right) :
    trim left.toList = trim right.toList := by
  rw [trimmed, trimmed] at same
  exact String.ofList_injective same

theorem isBlank_of_isDigit {c : Char} (digit : c.isDigit = true) :
    isBlank c = false := by
  obtain ⟨d, small, rfl⟩ := Decimal.exists_digitChar_eq digit
  have digits : ∀ d < 10, isBlank (Nat.digitChar d) = false := by decide +kernel
  exact digits d small

end Text

namespace Numeral

theorem read?_minus_exponent {cs exponent : List Char} {n : Numeral}
    {scale : Int} (spells : n.Spells cs)
    (scaled : SpellsExponent exponent scale) (negative : Bool) :
    read? (Double.minus negative ++ (cs ++ exponent)) =
      some { n with negative, exponent := scale } :=
  (spells.written scaled (sign_minus negative)).read?_eq

theorem read?_minus {cs : List Char} {n : Numeral} (spells : n.Spells cs)
    (negative : Bool) :
    read? (Double.minus negative ++ cs) = some { n with negative } := by
  have read := read?_minus_exponent spells .absent negative
  rw [List.append_nil] at read
  rw [read]
  cases spells <;> rfl

end Numeral

namespace Neat

variable {whole fraction : List Char}

theorem solid (neat : Neat whole fraction) (negative : Bool) :
    ∀ c ∈ Double.minus negative ++ text whole fraction,
      Text.isBlank c = false := by
  intro c member
  rcases List.mem_append.mp member with sign | member
  · cases negative with
    | false => cases sign
    | true =>
        obtain rfl := List.mem_singleton.mp sign
        decide +kernel
  · rw [text] at member
    rcases List.mem_append.mp member with before | member
    · exact Text.isBlank_of_isDigit (neat.wholeDigits c before)
    · split at member
      · cases member
      · rcases List.mem_cons.mp member with rfl | behind
        · decide +kernel
        · exact Text.isBlank_of_isDigit (neat.fractionDigits c behind)

theorem plainNumber?_eq_some_iff (neat : Neat whole fraction) {negative : Bool}
    {raw : String}
    (written : Text.trim raw.toList = Double.minus negative ++
      text whole fraction) {value : Double} :
    Cell.plainNumber? raw = some value ↔
      ∃ units representable,
        (numeral whole fraction).toDouble = .finite false units representable ∧
        .finite negative units representable = value := by
  have plain :
      ({ numeral whole fraction with negative } : Numeral).isPlain = true :=
    neat.isPlain
  have double : ({ numeral whole fraction with negative } : Numeral).toDouble =
      (numeral whole fraction).toDecimal.toDouble negative := rfl
  rw [Cell.plainNumber?, written, Numeral.read?_minus neat.spells negative]
  dsimp only
  rw [plain, Bool.true_and, double]
  constructor
  · intro read
    split at read
    · next finite =>
        obtain rfl := Option.some.inj read
        cases shape : (numeral whole fraction).toDecimal.toDouble negative with
        | nan => rw [shape] at finite; cases finite
        | infinite sign => rw [shape] at finite; cases finite
        | finite sign units representable =>
            obtain ⟨rfl, unsigned⟩ := Decimal.toDouble_eq_finite_iff.mp shape
            exact ⟨units, representable, unsigned, rfl⟩
    · cases read
  · intro found
    obtain ⟨units, representable, unsigned, rfl⟩ := found
    have signed : (numeral whole fraction).toDecimal.toDouble negative = _ :=
      Decimal.toDouble_eq_finite_iff.mpr ⟨rfl, unsigned⟩
    rw [signed]
    rfl

end Neat

namespace Double

variable {negative : Bool} {units : Nat}

theorem solid_cellText {x : Double} (finite : x.isFinite = true) :
    ∀ c ∈ x.cellText.toList, Text.isBlank c = false := by
  cases x with
  | nan => cases finite
  | infinite negative => cases finite
  | finite negative units representable =>
      obtain ⟨whole, fraction, neat, written⟩ :=
        exists_neat_positionalText representable
      rw [cellText_eq_positionalText, String.toList_ofList, ← written]
      exact neat.solid _

/-- What a cell shows of a number is read as an equal number. -/
theorem plainNumber?_cellText (representable : Representable units) :
    Cell.plainNumber? (finite negative units representable).cellText =
      some (finite (negative && units != 0) units representable) := by
  obtain ⟨whole, fraction, neat, written⟩ :=
    exists_neat_positionalText representable
  obtain ⟨n, spells, value⟩ := exists_spells_positionalText representable
  rw [← written] at spells
  have same : Neat.numeral whole fraction = n :=
    Option.some.inj <| (Condition.Lexer.read?_of_spells neat.spells).symm.trans
      (Condition.Lexer.read?_of_spells spells)
  rw [cellText_eq_positionalText, ← written]
  refine (neat.plainNumber?_eq_some_iff ?_).mpr
    ⟨units, representable, same ▸ value, rfl⟩
  rw [String.toList_ofList]
  exact Text.trim_of_solid (neat.solid _)

end Double

/-- How a text that a cell was read from is told in a report. One that is no
plain number is told as it is. A number is told in the notation of cells, as an
equal number; and in its own notation, if that is neat and short and has no
minus before a mere zero. -/
structure Retold (raw reported : String) : Prop where
  verbatim : Cell.plainNumber? raw = none →
    Text.trimmed reported = Text.trimmed raw
  number : ∀ value, Cell.plainNumber? raw = some value →
    reported = value.cellText ∧ ∃ same, Cell.plainNumber? reported = some same ∧
    same.equals value = true
  neat : ∀ negative whole fraction, Neat whole fraction →
    Neat.Short whole fraction →
    (negative = true → Neat.text whole fraction ≠ ['0']) →
    Text.trim raw.toList = Double.minus negative ++ Neat.text whole fraction →
    Text.trimmed reported = Text.trimmed raw

/-- Whether two texts are told alike: they are one text, or they spell one
number. -/
def ToldAlike (left right : String) : Prop :=
  Text.trimmed left = Text.trimmed right ∨
    ∃ x y, Cell.plainNumber? left = some x ∧ Cell.plainNumber? right = some y ∧
      x.equals y = true

namespace Cell

theorem plainNumber?_congr {left right : String}
    (same : Text.trimmed left = Text.trimmed right) :
    plainNumber? left = plainNumber? right := by
  rw [plainNumber?, plainNumber?, Text.trim_eq_of_trimmed_eq same]

theorem exists_finite_of_plainNumber? {raw : String} {value : Double}
    (read : plainNumber? raw = some value) :
    ∃ negative units representable,
      .finite negative units representable = value := by
  rw [plainNumber?] at read
  split at read
  · split at read
    · next numeral _ plain =>
        obtain rfl := Option.some.inj read
        cases shape : numeral.toDouble with
        | nan => simp [shape, Double.isFinite] at plain
        | infinite negative => simp [shape, Double.isFinite] at plain
        | finite negative units representable =>
            exact ⟨negative, units, representable, rfl⟩
    · cases read
  · cases read

theorem plainNumber?_of_allBlank {raw : String}
    (blank : Text.allBlank raw = true) : plainNumber? raw = none := by
  have nothing : Text.trimmed raw = Text.trimmed "" :=
    Text.trimmed_of_allBlank blank
  rw [plainNumber?_congr nothing]
  rfl

theorem trimmed_shown_of_eq_none {raw : String}
    (none : plainNumber? raw = none) :
    Text.trimmed (infer true raw).shown = Text.trimmed raw := by
  rw [infer]
  by_cases blank : Text.allBlank raw = true
  · rw [if_pos blank, shown, Text.trimmed_of_allBlank blank]
    rfl
  · rw [if_neg blank, if_pos rfl, none]
    rfl

theorem shown_of_eq_some {raw : String} {value : Double}
    (read : plainNumber? raw = some value) :
    (infer true raw).shown = value.cellText := by
  have notBlank : ¬ Text.allBlank raw = true := by
    intro blank
    rw [plainNumber?_of_allBlank blank] at read
    cases read
  rw [infer, if_neg notBlank, if_pos rfl, read]
  rfl

theorem cellText_of_neat {raw : String} {negative : Bool}
    {whole fraction : List Char} {value : Double} (neat : Neat whole fraction)
    (short : Neat.Short whole fraction)
    (signed : negative = true → Neat.text whole fraction ≠ ['0'])
    (written : Text.trim raw.toList = Double.minus negative ++
      Neat.text whole fraction) (read : plainNumber? raw = some value) :
    value.cellText = Text.trimmed raw := by
  obtain ⟨units, representable, reads, rfl⟩ :=
    (neat.plainNumber?_eq_some_iff written).mp read
  have same := neat.positionalText_eq short reads
  have sign : (negative && units != 0) = negative := by
    cases negative with
    | false => rfl
    | true =>
        have some : units ≠ 0 := by
          intro zero
          subst zero
          exact signed rfl same.symm
        simp [some]
  rw [Double.cellText_eq_positionalText, sign, same, ← written]
  rfl

/-- What the cell of a text shows is told in place of the text. -/
theorem retold_shown (raw : String) : Retold raw (infer true raw).shown where
  verbatim := trimmed_shown_of_eq_none
  number value read := by
    obtain ⟨negative, units, representable, rfl⟩ :=
      exists_finite_of_plainNumber? read
    rw [shown_of_eq_some read]
    refine ⟨rfl, _, Double.plainNumber?_cellText representable, ?_⟩
    rw [Double.equals_finite_iff]
    refine ⟨rfl, ?_⟩
    cases negative <;> simp [Decidable.or_iff_not_imp_right]
  neat negative whole fraction neat short signed written := by
    cases read : plainNumber? raw with
    | none => exact trimmed_shown_of_eq_none read
    | some value =>
        rw [shown_of_eq_some read,
          cellText_of_neat neat short signed written read, Text.trimmed,
          Text.trimmed, String.toList_ofList, written,
          Text.trim_of_solid (neat.solid negative)]

end Cell

namespace Retold

variable {raw reported : String}

theorem plainNumber?_eq_none (told : Retold raw reported)
    (unread : Cell.plainNumber? reported = none) :
    Cell.plainNumber? raw = none := by
  cases read : Cell.plainNumber? raw with
  | none => rfl
  | some value =>
      obtain ⟨-, same, reads, -⟩ := told.number value read
      rw [unread] at reads
      cases reads

theorem exists_number (told : Retold raw reported) {x : Double}
    (read : Cell.plainNumber? reported = some x) :
    ∃ value, Cell.plainNumber? raw = some value ∧ x.equals value = true := by
  cases known : Cell.plainNumber? raw with
  | none =>
      rw [Cell.plainNumber?_congr (told.verbatim known), known] at read
      cases read
  | some value =>
      obtain ⟨-, same, reads, equal⟩ := told.number value known
      obtain rfl := Option.some.inj (reads.symm.trans read)
      exact ⟨value, rfl, equal⟩

theorem trimmed_eq_iff {left right leftReported rightReported : String}
    (leftTold : Retold left leftReported)
    (rightTold : Retold right rightReported) :
    Text.trimmed leftReported = Text.trimmed rightReported ↔
      ToldAlike left right := by
  constructor
  · intro same
    have reads := Cell.plainNumber?_congr same
    cases read : Cell.plainNumber? leftReported with
    | none =>
        rw [read] at reads
        have leftVerbatim :=
          leftTold.verbatim (leftTold.plainNumber?_eq_none read)
        have rightVerbatim :=
          rightTold.verbatim (rightTold.plainNumber?_eq_none reads.symm)
        exact .inl (leftVerbatim.symm.trans (same.trans rightVerbatim))
    | some x =>
        rw [read] at reads
        obtain ⟨y, leftRead, leftEqual⟩ := leftTold.exists_number read
        obtain ⟨z, rightRead, rightEqual⟩ := rightTold.exists_number reads.symm
        exact .inr ⟨y, z, leftRead, rightRead,
          Double.equals_trans (Double.equals_symm leftEqual) rightEqual⟩
  · intro alike
    rcases alike with same | ⟨x, y, leftRead, rightRead, equal⟩
    · have reads := Cell.plainNumber?_congr same
      cases read : Cell.plainNumber? left with
      | none =>
          rw [read] at reads
          rw [leftTold.verbatim read, same, rightTold.verbatim reads.symm]
      | some value =>
          rw [read] at reads
          rw [(leftTold.number value read).1,
            (rightTold.number value reads.symm).1]
    · obtain ⟨negative, units, representable, rfl⟩ :=
        Cell.exists_finite_of_plainNumber? leftRead
      obtain ⟨sign, other, otherRepresentable, rfl⟩ :=
        Cell.exists_finite_of_plainNumber? rightRead
      rw [(leftTold.number _ leftRead).1, (rightTold.number _ rightRead).1,
        Double.cellText_eq_of_equals equal]

end Retold

end RowAudit
