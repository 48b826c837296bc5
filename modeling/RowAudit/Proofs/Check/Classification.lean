import RowAudit.Proofs.Check.Vacancy
import RowAudit.Proofs.Double.Notation
import RowAudit.Proofs.Text.Pieces

namespace RowAudit

namespace Classification

/-- A text that ends in a digit and has at most one point, with letters and
digits before it and digits behind it. -/
structure Code (cs : List Char) : Prop where
  last : ∃ c, cs.getLast? = some c ∧ c.isDigit = true
  points : cs.count '.' ≤ 1
  before : ∀ c ∈ cs.takeWhile (· ≠ '.'), c.isAlpha = true ∨ c.isDigit = true
  behind : ∀ c ∈ (cs.dropWhile (· ≠ '.')).drop 1, c.isDigit = true

theorem isCodeChar_iff {c : Char} :
    isCodeChar c = true ↔ c.isAlpha = true ∨ c.isDigit = true := by
  rw [isCodeChar, Bool.or_eq_true]

theorem isDigit_ne_point {c : Char} (digit : c.isDigit = true) : c ≠ '.' := by
  rintro rfl
  cases digit

section

variable {run fraction rest : List Char}
  (chars : ∀ c ∈ run, isCodeChar c = true)
include chars

theorem ne_point_of_mem_run : ∀ c ∈ run, decide (c ≠ '.') = true := by
  intro c member
  rw [decide_eq_true_eq]
  rintro rfl
  cases chars '.' member

theorem takeWhile_run_point :
    (run ++ '.' :: fraction).takeWhile (· ≠ '.') = run :=
  Text.takeWhile_append_of_stops (ne_point_of_mem_run chars)
    (Text.head_cons rfl)

theorem dropWhile_run_point :
    (run ++ '.' :: fraction).dropWhile (· ≠ '.') = '.' :: fraction :=
  Text.dropWhile_append_of_stops (ne_point_of_mem_run chars)
    (Text.head_cons rfl)

theorem code_iff_of_run :
    Code run ↔ ∃ c, run.getLast? = some c ∧ c.isDigit = true := by
  constructor
  · exact Code.last
  · intro last
    have apart := ne_point_of_mem_run chars
    have taken : run.takeWhile (· ≠ '.') = run :=
      List.takeWhile_eq_self_iff.mpr apart
    have dropped : run.dropWhile (· ≠ '.') = [] :=
      List.dropWhile_eq_nil_iff.mpr apart
    refine ⟨last, ?_, ?_, ?_⟩
    · rw [List.count_eq_zero_of_not_mem fun member =>
        absurd (chars '.' member) (by decide)]
      exact Nat.zero_le 1
    · rw [taken]
      exact fun c member => isCodeChar_iff.mp (chars c member)
    · rw [dropped]
      exact fun c member => nomatch member

theorem code_iff_of_point :
    Code (run ++ '.' :: fraction) ↔ fraction ≠ [] ∧ ∀ c ∈ fraction,
      c.isDigit = true := by
  constructor
  · intro code
    have behind := code.behind
    rw [dropWhile_run_point chars] at behind
    refine ⟨?_, behind⟩
    rintro rfl
    obtain ⟨c, last, digit⟩ := code.last
    rw [List.getLast?_concat] at last
    exact isDigit_ne_point digit (Option.some.inj last).symm
  · rintro ⟨nonempty, digits⟩
    have pointless : '.' ∉ run ∧ '.' ∉ fraction :=
      ⟨fun member => absurd (chars '.' member) (by decide),
        fun member => absurd (digits '.' member) (by decide)⟩
    refine ⟨?_, ?_, ?_, ?_⟩
    · have last := List.getLast?_eq_some_getLast nonempty
      refine ⟨_, ?_, digits _ (List.mem_of_getLast? last)⟩
      rw [List.getLast?_append_of_ne_nil _ (List.cons_ne_nil _ _),
        List.getLast?_cons, last]
      rfl
    · rw [List.count_append, List.count_cons_self,
        List.count_eq_zero_of_not_mem pointless.1,
        List.count_eq_zero_of_not_mem pointless.2]
    · rw [takeWhile_run_point chars]
      exact fun c member => isCodeChar_iff.mp (chars c member)
    · rw [dropWhile_run_point chars]
      exact digits

theorem not_code_of_other {c : Char} (other : isCodeChar c = false)
    (notPoint : c ≠ '.') : ¬ Code (run ++ c :: rest) := by
  intro code
  have among : c ∈ (run ++ c :: rest).takeWhile (· ≠ '.') := by
    have kept :
        (c :: rest).takeWhile (· ≠ '.') = c :: rest.takeWhile (· ≠ '.') :=
      List.takeWhile_cons_of_pos (decide_eq_true notPoint)
    rw [List.takeWhile_append_of_pos (ne_point_of_mem_run chars), kept]
    exact List.mem_append_right _ List.mem_cons_self
  have codeChar := isCodeChar_iff.mpr (code.before c among)
  rw [other] at codeChar
  cases codeChar

end

theorem isCode_iff {cs : List Char} : isCode cs = true ↔ Code cs := by
  -- The text is cut where letters and digits end, and what comes next there is
  -- nothing, a point, or anything else.
  have chars : ∀ c ∈ cs.takeWhile isCodeChar, isCodeChar c = true :=
    fun c member =>
    List.mem_takeWhile_imp member
  have whole : cs.takeWhile isCodeChar ++ cs.dropWhile isCodeChar = cs :=
    List.takeWhile_append_dropWhile
  rw [isCode]
  split
  · next none =>
      rw [none, List.append_nil] at whole
      rw [whole] at chars
      rw [code_iff_of_run chars, Option.any_eq_true]
  · next fraction point =>
      rw [point] at whole
      rw [← whole, code_iff_of_point chars, Bool.and_eq_true, decide_eq_true_eq,
        List.all_eq_true]
  · next rest notNone notPoint =>
      cases stops : cs.dropWhile isCodeChar with
      | nil => exact absurd stops notNone
      | cons c rest =>
          have other : isCodeChar c = false := by
            have first := List.head?_dropWhile_not isCodeChar cs
            rw [stops] at first
            exact first
          rw [stops] at whole
          rw [← whole]
          refine iff_of_false Bool.false_ne_true
            (not_code_of_other chars other ?_)
          rintro rfl
          exact notPoint rest stops

theorem isCodeChar_of_isDigit {c : Char} (digit : c.isDigit = true) :
    isCodeChar c = true :=
  isCodeChar_iff.mpr (.inr digit)

theorem code_of_spells {cs : List Char} {n : Numeral} (spells : n.Spells cs) :
    Code cs := by
  cases spells with
  | whole nonempty digits =>
      have last := List.getLast?_eq_some_getLast nonempty
      have chars : ∀ c ∈ cs, isCodeChar c = true :=
        fun c member => isCodeChar_of_isDigit (digits c member)
      exact (code_iff_of_run chars).mpr
        ⟨_, last, digits _ (List.mem_of_getLast? last)⟩
  | fraction nonempty wholeDigits fractionDigits =>
      have chars := fun c member => isCodeChar_of_isDigit (wholeDigits c member)
      exact (code_iff_of_point chars).mpr ⟨nonempty, fractionDigits⟩

theorem code_cellText_iff {x : Double} :
    Code x.cellText.toList ↔
      x.isFinite = true ∧ x.compare? (.zero false) ≠ some .lt := by
  cases x with
  | nan =>
      refine iff_of_false ?_ fun number => Bool.false_ne_true number.1
      rw [← isCode_iff]
      decide
  | infinite negative =>
      refine iff_of_false ?_ fun number => Bool.false_ne_true number.1
      rw [← isCode_iff]
      cases negative <;> decide
  | finite negative units representable =>
      obtain ⟨n, spells, -⟩ := Double.exists_spells_positionalText representable
      have below : (Double.finite negative units representable).compare?
          (.zero false) = some .lt ↔
          (negative && units != 0) = true := by
        cases negative with
        | false =>
            have nonneg : ¬ compare (units : Int) 0 = .lt := by
              rw [Int.compare_eq_lt]
              omega
            simpa [Double.compare?, Double.position, Double.zero] using nonneg
        | true =>
            have negative : compare (-(units : Int)) 0 = .lt ↔ ¬ units = 0 := by
              rw [Int.compare_eq_lt]
              omega
            simpa [Double.compare?, Double.position, Double.zero] using negative
      rw [ne_eq, below, Double.cellText_eq_positionalText, String.toList_ofList]
      cases negative && units != 0 with
      | false =>
          exact iff_of_true (code_of_spells spells) ⟨rfl, Bool.false_ne_true⟩
      | true =>
          refine iff_of_false ?_ fun positive => positive.2 rfl
          exact not_code_of_other (List.forall_mem_nil _) rfl (by decide)

end Classification

namespace Cell

variable {flag : Bool} {expected : ExpectedType} {cell : Cell}

/-- What a declared type accepts. -/
inductive Fits (flag : Bool) (expected : ExpectedType) : Cell → Prop
  | vacant {cell : Cell} (vacant : cell.Vacant) (unflagged : flag = false) :
      Fits flag expected cell
  | text {s : String} (filled : ¬ (Cell.text s).Vacant)
      (suits : expected = .text ∨ Classification.Code s.toList) :
      Fits flag expected (.text s)
  | number {x : Double} (suits : (expected = .number ∨ expected = .amount) ∨
      (x.isFinite = true ∧ x.compare? (.zero false) ≠ some .lt)) :
      Fits flag expected (.number x)
  | date {d : DateTime} (suits : expected = .date) :
      Fits flag expected (.date d)

theorem not_vacant_number {x : Double} : ¬ (Cell.number x).Vacant := by
  intro vacant
  cases vacant

theorem not_vacant_date {d : DateTime} : ¬ (Cell.date d).Vacant := by
  intro vacant
  cases vacant

theorem label_ofKind (kind : CellKind) :
    (CellClass.ofKind kind).label = kind.label := by
  cases kind <;> rfl

theorem fits_iff_of_vacant (vacant : cell.Vacant) :
    cell.Fits flag expected ↔ flag = false := by
  constructor
  · intro fits
    cases fits with
    | vacant _ unflagged => exact unflagged
    | text filled _ => exact absurd vacant filled
    | number _ => exact absurd vacant not_vacant_number
    | date _ => exact absurd vacant not_vacant_date
  · exact .vacant vacant

theorem fits_text_iff {s : String} (filled : ¬ (Cell.text s).Vacant) :
    (Cell.text s).Fits flag expected ↔
      expected = .text ∨ Classification.Code s.toList := by
  constructor
  · intro fits
    cases fits with
    | vacant vacant _ => exact absurd vacant filled
    | text _ suits => exact suits
  · exact .text filled

theorem fits_number_iff {x : Double} : (Cell.number x).Fits flag expected ↔
    (expected = .number ∨ expected = .amount) ∨
      (x.isFinite = true ∧ x.compare? (.zero false) ≠ some .lt) := by
  constructor
  · intro fits
    cases fits with
    | vacant vacant _ => exact absurd vacant not_vacant_number
    | number suits => exact suits
  · exact .number

theorem fits_date_iff {d : DateTime} :
    (Cell.date d).Fits flag expected ↔ expected = .date := by
  constructor
  · intro fits
    cases fits with
    | vacant vacant _ => exact absurd vacant not_vacant_date
    | date suits => exact suits
  · exact .date

section

variable (filled : cell.isVacant = false)
include filled

theorem isMatch_classify_of_filled : (cell.classify flag expected).isMatch =
    (Classification.isDirect cell expected || Classification.isGeneral cell ||
      (Classification.ofRemaining cell expected).isMatch) := by
  rw [classify, filled, if_neg Bool.false_ne_true]
  cases Classification.isDirect cell expected with
  | true => rfl
  | false => cases Classification.isGeneral cell <;> rfl

/-- A filled cell that is not accepted has come to the end of the rules, where
only its kind is left to report. -/
theorem label_classify_of_filled
    (mismatch : (cell.classify flag expected).isMatch = false) :
    (cell.classify flag expected).cellClass.label = cell.kind.label := by
  have parts := mismatch
  rw [isMatch_classify_of_filled filled, Bool.or_eq_false_iff,
    Bool.or_eq_false_iff] at parts
  obtain ⟨⟨direct, general⟩, remaining⟩ := parts
  rw [classify, filled, direct, general]
  revert remaining
  unfold Classification.ofRemaining
  split
  · intro remaining
    cases remaining
  · intro remaining
    cases remaining
  · intro _
    exact label_ofKind cell.kind

end

theorem isDirect_text_iff {s : String}
    (filled : (Cell.text s).isVacant = false) :
    Classification.isDirect (.text s) expected = true ↔ expected = .text := by
  have white : Text.allBlank s = false := filled
  cases expected with
  | text => simp [Classification.isDirect, white]
  | number | date | amount | general | other _ => simp [Classification.isDirect]

theorem isDirect_number_iff {x : Double} :
    Classification.isDirect (.number x) expected = true ↔
      expected = .number := by
  cases expected <;> simp [Classification.isDirect]

theorem isMatch_ofRemaining_number_iff {x : Double} :
    (Classification.ofRemaining (.number x) expected).isMatch = true ↔
      expected = .amount := by
  cases expected <;> simp [Classification.ofRemaining]

theorem isMatch_ofRemaining_date_iff {d : DateTime} :
    (Classification.ofRemaining (.date d) expected).isMatch = true ↔
      expected = .date := by
  cases expected <;> simp [Classification.ofRemaining]

theorem isMatch_classify_iff_of_filled (filled : cell.isVacant = false) :
    (cell.classify flag expected).isMatch = true ↔ cell.Fits flag expected := by
  rw [isMatch_classify_of_filled filled, Bool.or_eq_true, Bool.or_eq_true]
  cases cell with
  | blank => cases filled
  | text s =>
      have notVacant : ¬ (Cell.text s).Vacant := by
        rw [← isVacant_iff, filled]
        exact Bool.false_ne_true
      rw [isDirect_text_iff filled, fits_text_iff notVacant,
        ← Classification.isCode_iff]
      exact or_iff_left Bool.false_ne_true
  | number x =>
      rw [isDirect_number_iff, isMatch_ofRemaining_number_iff, fits_number_iff,
        ← Classification.code_cellText_iff, ← Classification.isCode_iff]
      exact or_right_comm
  | date d =>
      rw [isMatch_ofRemaining_date_iff, fits_date_iff]
      exact or_iff_right (not_or_intro Bool.false_ne_true Bool.false_ne_true)

/-- What a classification is to say: whether the cell fits and, where it does
not, what it holds instead. -/
structure Judged (flag : Bool) (expected : ExpectedType) (cell : Cell)
    (found : Classification) : Prop where
  isMatch : found.isMatch = true ↔ cell.Fits flag expected
  vacant : cell.Vacant → found.isMatch = false → found.cellClass.label = "null"
  filled : ¬ cell.Vacant → found.isMatch = false →
    found.cellClass.label = cell.kind.label

theorem judged_classify (flag : Bool) (expected : ExpectedType) (cell : Cell) :
    Judged flag expected cell (cell.classify flag expected) := by
  cases emptiness : cell.isVacant with
  | true =>
      have vacant := isVacant_iff.mp emptiness
      rw [classify_of_isVacant emptiness]
      exact {
        isMatch := by rw [fits_iff_of_vacant vacant, Bool.not_eq_true']
        vacant := fun _ _ => rfl
        filled := fun filled => absurd vacant filled
      }
  | false =>
      have notVacant : ¬ cell.Vacant := by
        rw [← isVacant_iff, emptiness]
        exact Bool.false_ne_true
      exact {
        isMatch := isMatch_classify_iff_of_filled emptiness
        vacant := fun vacant => absurd vacant notVacant
        filled := fun _ mismatch => label_classify_of_filled emptiness mismatch
      }

end Cell

end RowAudit
