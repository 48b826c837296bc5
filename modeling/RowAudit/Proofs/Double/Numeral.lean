import RowAudit.Proofs.Double.Notation
import RowAudit.Proofs.Text.LowerCase
import RowAudit.Proofs.Text.Pieces

namespace RowAudit.Numeral

open Text (takeWhile_append_of_stops dropWhile_append_of_stops)

inductive Sign : List Char → Bool → Prop
  | absent : Sign [] false
  | plus : Sign ['+'] false
  | minus : Sign ['-'] true

inductive Power : List Char → Int → Prop
  | absent : Power [] 0
  | present {mark : Char} (isMark : mark = 'e' ∨ mark = 'E') {sign : List Char}
      {negative : Bool}
      (signs : Sign sign negative) {digits : List Char} (nonempty : digits ≠ [])
      (isDigit : ∀ c ∈ digits, c.isDigit = true) :
      Power (mark :: (sign ++ digits))
        (signed negative (Decimal.ofDigits digits))

def pointed (whole : List Char) : Option (List Char) → List Char
  | none => whole
  | some fraction => whole ++ '.' :: fraction

/-- A text that is a numeral as it stands. -/
inductive Written : List Char → Numeral → Prop
  | mk {sign power : List Char} {n : Numeral} (signs : Sign sign n.negative)
      (wholeDigits : ∀ c ∈ n.whole, c.isDigit = true)
      (fractionDigits : ∀ fraction ∈ n.fraction, ∀ c ∈ fraction,
        c.isDigit = true)
      (scales : Power power n.exponent) :
      Written (sign ++ (pointed n.whole n.fraction ++ power)) n

/-! Signs. -/

theorem not_sign_of_isDigit {c : Char} (digit : c.isDigit = true) :
    c ≠ '+' ∧ c ≠ '-' := by
  constructor
  · intro same
    subst same
    cases digit
  · intro same
    subst same
    cases digit

theorem splitSign_of_head {cs : List Char}
    (head : ∀ c ∈ cs.head?, c ≠ '+' ∧ c ≠ '-') :
    splitSign cs = (false, cs) := by
  rw [splitSign.eq_def]
  split
  · exact absurd rfl (head '+' rfl).1
  · exact absurd rfl (head '-' rfl).2
  · rfl

theorem exists_sign_of_splitSign (cs : List Char) :
    ∃ sign, cs = sign ++ (splitSign cs).2 ∧ Sign sign (splitSign cs).1 := by
  unfold splitSign
  split
  · exact ⟨['+'], rfl, .plus⟩
  · exact ⟨['-'], rfl, .minus⟩
  · exact ⟨[], rfl, .absent⟩

theorem splitSign_append {sign rest : List Char} {negative : Bool}
    (signs : Sign sign negative)
    (unsigned : ∀ c ∈ rest.head?, c ≠ '+' ∧ c ≠ '-') :
    splitSign (sign ++ rest) = (negative, rest) := by
  cases signs with
  | absent => exact splitSign_of_head unsigned
  | plus => rfl
  | minus => rfl

/-! Exponents. -/

theorem Power.head_ne {power : List Char} {scale : Int}
    (scales : Power power scale) :
    ∀ c ∈ power.head?, c.isDigit = false ∧ c ≠ '.' ∧ c ≠ '+' ∧ c ≠ '-' := by
  intro c first
  cases scales with
  | absent => cases first
  | present isMark =>
      obtain rfl := Option.some.inj first
      rcases isMark with rfl | rfl <;> decide

theorem readExponent?_eq_some_iff {cs : List Char} {scale : Int} :
    readExponent? cs = some scale ↔ Power cs scale := by
  constructor
  · intro read
    cases cs with
    | nil =>
        obtain rfl := Option.some.inj read
        exact .absent
    | cons mark rest =>
        obtain ⟨sign, split, signs⟩ := exists_sign_of_splitSign rest
        simp only [readExponent?] at read
        split at read
        · next parts =>
            obtain ⟨isMark, nonempty, digits⟩ := parts
            obtain rfl := Option.some.inj read
            have power :=
              Power.present isMark signs nonempty (List.all_eq_true.mp digits)
            rwa [← split] at power
        · cases read
  · intro scales
    cases scales with
    | absent => rfl
    | @present mark isMark sign negative signs digits nonempty isDigit =>
        have unsigned : ∀ c ∈ digits.head?, c ≠ '+' ∧ c ≠ '-' := fun c first =>
          not_sign_of_isDigit (isDigit c (List.mem_of_mem_head? first))
        simp only [readExponent?, splitSign_append signs unsigned]
        rw [if_pos ⟨isMark, nonempty, List.all_eq_true.mpr isDigit⟩]

/-! Numerals. -/

theorem takeWhile_isDigit_point {whole rest : List Char}
    (digits : ∀ c ∈ whole, c.isDigit = true) :
    (whole ++ '.' :: rest).takeWhile Char.isDigit = whole :=
  takeWhile_append_of_stops digits (Text.head_cons rfl)

theorem dropWhile_isDigit_point {whole rest : List Char}
    (digits : ∀ c ∈ whole, c.isDigit = true) :
    (whole ++ '.' :: rest).dropWhile Char.isDigit = '.' :: rest :=
  dropWhile_append_of_stops digits (Text.head_cons rfl)

section

variable {sign whole fraction power : List Char} {negative : Bool} {scale : Int}
  (signs : Sign sign negative) (wholeDigits : ∀ c ∈ whole, c.isDigit = true)
  (scales : Power power scale)
include signs wholeDigits scales

theorem Written.of_whole :
    Written (sign ++ (whole ++ power)) ⟨negative, whole, none, scale⟩ :=
  .mk (n := ⟨negative, whole, none, scale⟩) signs wholeDigits
    (fun fraction none => absurd none (Option.not_mem_none fraction)) scales

theorem Written.of_fraction
    (fractionDigits : ∀ c ∈ fraction, c.isDigit = true) :
    Written (sign ++ (whole ++ '.' :: fraction ++ power))
      ⟨negative, whole, some fraction, scale⟩ :=
  .mk (n := ⟨negative, whole, some fraction, scale⟩) signs wholeDigits
    (fun _ some => Option.some.inj some ▸ fractionDigits) scales

end

theorem head_pointed_append {whole power : List Char}
    (wholeDigits : ∀ c ∈ whole, c.isDigit = true)
    (fraction : Option (List Char)) {scale : Int} (scales : Power power scale) :
    ∀ c ∈ (pointed whole fraction ++ power).head?, c ≠ '+' ∧ c ≠ '-' := by
  intro c first
  cases whole with
  | cons d rest =>
      have same : d = c := by cases fraction <;> exact Option.some.inj first
      exact not_sign_of_isDigit (same ▸ wholeDigits d List.mem_cons_self)
  | nil =>
      cases fraction with
      | none => exact (scales.head_ne c first).2.2
      | some fraction =>
          obtain rfl := Option.some.inj first
          decide

theorem Written.read?_eq {cs : List Char} {n : Numeral}
    (written : Written cs n) : read? cs = some n := by
  obtain ⟨signs, wholeDigits, fractionDigits, scales⟩ := written
  have split :=
    splitSign_append signs (head_pointed_append wholeDigits n.fraction scales)
  have read := readExponent?_eq_some_iff.mpr scales
  have stops := fun c first => (scales.head_ne c first).1
  obtain ⟨negative, whole, fraction, exponent⟩ := n
  simp only [read?, split]
  cases fraction with
  | none =>
      simp only [pointed, takeWhile_append_of_stops wholeDigits stops,
        dropWhile_append_of_stops wholeDigits stops]
      split
      · exact absurd rfl (scales.head_ne '.' rfl).2.1
      · rw [read, Option.map_some]
  | some fraction =>
      have digits := fractionDigits fraction rfl
      simp only [pointed, List.append_assoc, List.cons_append,
        takeWhile_isDigit_point wholeDigits,
        dropWhile_isDigit_point wholeDigits,
        takeWhile_append_of_stops digits stops,
        dropWhile_append_of_stops digits stops, read, Option.map_some]

theorem read?_eq_some_iff {cs : List Char} {n : Numeral} :
    read? cs = some n ↔ Written cs n := by
  refine ⟨?_, Written.read?_eq⟩
  intro read
  have takenDigits (body : List Char) :
      ∀ c ∈ body.takeWhile Char.isDigit, c.isDigit = true :=
    fun _ member => List.mem_takeWhile_imp member
  obtain ⟨sign, split, signs⟩ := exists_sign_of_splitSign cs
  simp only [read?] at read
  generalize splitSign cs = parts at split signs read
  obtain ⟨negative, body⟩ := parts
  simp only at split signs read
  subst split
  split at read
  · next tail point =>
      obtain ⟨scale, exponent, rfl⟩ := Option.map_eq_some_iff.mp read
      have written :=
        Written.of_fraction signs (takenDigits body)
          (readExponent?_eq_some_iff.mp exponent)
        (takenDigits tail)
      rwa [List.append_assoc, List.cons_append, List.takeWhile_append_dropWhile,
        ← point, List.takeWhile_append_dropWhile] at written
  · obtain ⟨scale, exponent, rfl⟩ := Option.map_eq_some_iff.mp read
    have written :=
      Written.of_whole signs (takenDigits body)
        (readExponent?_eq_some_iff.mp exponent)
    rwa [List.takeWhile_append_dropWhile] at written

/-! Numerals as numbers are written. -/

theorem sign_minus (negative : Bool) :
    Sign (Double.minus negative) negative := by
  cases negative with
  | false => exact .absent
  | true => exact .minus

theorem SpellsExponent.power {exponent : List Char} {scale : Int}
    (scaled : SpellsExponent exponent scale) : Power exponent scale := by
  cases scaled with
  | absent => exact .absent
  | present isMark negative nonempty digits =>
      exact .present isMark (sign_minus negative) nonempty digits

theorem Spells.written {cs exponent sign : List Char} {n : Numeral}
    {scale : Int} {negative : Bool} (spells : n.Spells cs)
    (scaled : SpellsExponent exponent scale) (signs : Sign sign negative) :
    Written (sign ++ (cs ++ exponent))
      { n with negative, exponent := scale } := by
  cases spells with
  | whole _ digits => exact .of_whole signs digits scaled.power
  | fraction _ wholeDigits fractionDigits =>
      exact .of_fraction signs wholeDigits scaled.power fractionDigits

/-! The characters of numerals, and their letter case. -/

def isNumeralChar (c : Char) : Bool :=
  c.isDigit || c ∈ ['.', '+', '-', 'e', 'E']

theorem isNumeralChar_of_isDigit {c : Char} (digit : c.isDigit = true) :
    isNumeralChar c = true := by
  rw [isNumeralChar, digit, Bool.true_or]

theorem ascii_of_isNumeralChar {c : Char} (isChar : isNumeralChar c = true) :
    c.toNat < 128 := by
  rw [isNumeralChar, Bool.or_eq_true, decide_eq_true_eq] at isChar
  rcases isChar with digit | mark
  · have last : c.toNat ≤ '9'.toNat := (Char.isDigit_iff_toNat.mp digit).2
    exact Nat.lt_of_le_of_lt last (by decide)
  · have marks : ['.', '+', '-', 'e', 'E'].all (fun mark => mark.toNat < 128) =
        true := by
      decide
    exact of_decide_eq_true (List.all_eq_true.mp marks c mark)

theorem Sign.isNumeralChar {sign : List Char} {negative : Bool}
    (signs : Sign sign negative) : ∀ c ∈ sign, isNumeralChar c = true := by
  cases signs with
  | absent => exact List.forall_mem_nil _
  | plus => exact List.forall_mem_singleton.mpr rfl
  | minus => exact List.forall_mem_singleton.mpr rfl

theorem Power.isNumeralChar {power : List Char} {scale : Int}
    (scales : Power power scale) : ∀ c ∈ power, isNumeralChar c = true := by
  cases scales with
  | absent => exact List.forall_mem_nil _
  | present isMark signs _ isDigit =>
      rw [List.forall_mem_cons, List.forall_mem_append]
      refine ⟨?_, signs.isNumeralChar,
        fun c member => isNumeralChar_of_isDigit (isDigit c member)⟩
      rcases isMark with rfl | rfl <;> rfl

theorem Written.isNumeralChar {cs : List Char} {n : Numeral}
    (written : Written cs n) : ∀ c ∈ cs, isNumeralChar c = true := by
  obtain ⟨signs, wholeDigits, fractionDigits, scales⟩ := written
  have whole := fun c member => isNumeralChar_of_isDigit (wholeDigits c member)
  rw [List.forall_mem_append, List.forall_mem_append]
  refine ⟨signs.isNumeralChar, ?_, scales.isNumeralChar⟩
  cases behind : n.fraction with
  | none => exact whole
  | some fraction =>
      have digits := fractionDigits fraction behind
      rw [pointed, List.forall_mem_append, List.forall_mem_cons]
      exact ⟨whole, rfl,
        fun c member => isNumeralChar_of_isDigit (digits c member)⟩

theorem map_toLower_of_isDigit {cs : List Char}
    (isDigit : ∀ c ∈ cs, c.isDigit = true) : cs.map Char.toLower = cs := by
  have uncased (c : Char) (digit : c.isDigit = true) : c.toLower = c :=
    Text.forall_ascii (p := fun c => c.isDigit = true → c.toLower = c)
      (by decide +kernel) c
      (ascii_of_isNumeralChar (isNumeralChar_of_isDigit digit)) digit
  rw [List.map_congr_left fun c member => uncased c (isDigit c member),
    List.map_id']

theorem Sign.map_toLower {sign : List Char} {negative : Bool}
    (signs : Sign sign negative) : sign.map Char.toLower = sign := by
  cases signs <;> rfl

theorem Power.map_toLower {power : List Char} {scale : Int}
    (scales : Power power scale) : Power (power.map Char.toLower) scale := by
  cases scales with
  | absent => exact .absent
  | @present mark isMark sign negative signs digits nonempty isDigit =>
      have small : mark.toLower = 'e' := by rcases isMark with rfl | rfl <;> rfl
      rw [List.map_cons, List.map_append, signs.map_toLower,
        map_toLower_of_isDigit isDigit]
      exact .present (.inl small) signs nonempty isDigit

theorem Written.map_toLower {cs : List Char} {n : Numeral}
    (written : Written cs n) : Written (cs.map Char.toLower) n := by
  obtain ⟨signs, wholeDigits, fractionDigits, scales⟩ := written
  have digits : (pointed n.whole n.fraction).map Char.toLower =
      pointed n.whole n.fraction := by
    have whole := map_toLower_of_isDigit wholeDigits
    cases behind : n.fraction with
    | none => exact whole
    | some fraction =>
        rw [pointed, List.map_append, List.map_cons, whole,
          map_toLower_of_isDigit (fractionDigits fraction behind)]
        rfl
  rw [List.map_append, List.map_append, signs.map_toLower, digits]
  exact .mk signs wholeDigits fractionDigits scales.map_toLower

end RowAudit.Numeral
