import RowAudit.Proofs.Text.LowerCase

/-!
Lower-casing a text as a whole and character by character. The two differ in the
capital sigma that ends a word, and in nothing else; what is in lower case
already, both leave alone.
-/

namespace RowAudit.Text

/-- A capital sigma with a letter before it in its word and none behind it. -/
def EndsWord (before rest : List Char) : Prop :=
  meetsCased before = true ∧ meetsCased rest = false

def HasFinalSigma (cs : List Char) : Prop :=
  ∃ front rest, cs = front ++ 'Σ' :: rest ∧ EndsWord front.reverse rest

theorem lowerChar_sigma : lowerChar 'Σ' = ['σ'] := by
  decide +kernel

theorem lowerAfter_cons_of_ne (before rest : List Char) {c : Char}
    (other : c ≠ 'Σ') :
    lowerAfter before (c :: rest) =
      lowerChar c ++ lowerAfter (c :: before) rest := by
  rw [lowerAfter, if_neg other]

theorem lowerAfter_sigma_of_endsWord {before rest : List Char}
    (ends : EndsWord before rest) :
    lowerAfter before ('Σ' :: rest) =
      'ς' :: lowerAfter ('Σ' :: before) rest := by
  rw [lowerAfter, if_pos rfl, ends.1, ends.2]
  rfl

theorem lowerAfter_sigma_of_not_endsWord {before rest : List Char}
    (goesOn : ¬ EndsWord before rest) :
    lowerAfter before ('Σ' :: rest) = lowerChar 'Σ' ++
      lowerAfter ('Σ' :: before) rest := by
  have undecided : (meetsCased before && !meetsCased rest) = false := by
    simpa [EndsWord] using goesOn
  rw [lowerAfter, if_pos rfl, undecided, if_neg Bool.false_ne_true,
    lowerChar_sigma]

/-- The texts before a character, given from the last back, and behind it are
all that decides. -/
theorem lowerAfter_eq_lowerEach_iff (before cs : List Char) :
    lowerAfter before cs = lowerEach cs ↔
      ∀ front rest, cs = front ++ 'Σ' :: rest →
        ¬ EndsWord (front.reverse ++ before) rest := by
  induction cs generalizing before with
  | nil =>
      constructor
      · intro _ front rest split
        simp at split
      · intro _
        rfl
  | cons c cs ih =>
      have later : (∀ front rest, cs = front ++ 'Σ' :: rest →
            ¬ EndsWord (front.reverse ++ c :: before) rest) ↔
          ∀ front rest, c :: cs = (c :: front) ++ 'Σ' :: rest →
            ¬ EndsWord ((c :: front).reverse ++ before) rest := by
        simp
      have tail : lowerAfter (c :: before) cs = lowerEach cs ↔ _ :=
        (ih (c :: before)).trans later
      by_cases sigma : c = 'Σ'
      · subst sigma
        by_cases ends : EndsWord before cs
        · rw [lowerAfter_sigma_of_endsWord ends, lowerEach_cons,
            lowerChar_sigma]
          constructor
          · intro same
            exact absurd (List.cons.inj same).1 (by decide)
          · intro none
            exact absurd ends (none [] cs rfl)
        · rw [lowerAfter_sigma_of_not_endsWord ends, lowerEach_cons,
            List.append_right_inj, tail]
          constructor
          · intro none front rest split
            cases front with
            | nil =>
                obtain ⟨-, rfl⟩ := List.cons.inj split
                exact ends
            | cons d front =>
                obtain ⟨rfl, -⟩ := List.cons.inj split
                exact none front rest split
          · intro none front rest split
            exact none (_ :: front) rest split
      · rw [lowerAfter_cons_of_ne before cs sigma, lowerEach_cons,
          List.append_right_inj, tail]
        constructor
        · intro none front rest split
          cases front with
          | nil => exact absurd (List.cons.inj split).1 sigma
          | cons d front =>
              obtain ⟨rfl, -⟩ := List.cons.inj split
              exact none front rest split
        · intro none front rest split
          exact none (c :: front) rest split

theorem lower_eq_ofList_lowerEach_iff (s : String) :
    lower s = String.ofList (lowerEach s.toList) ↔
      ¬ HasFinalSigma s.toList := by
  rw [lower, String.ofList_inj, lowerAfter_eq_lowerEach_iff]
  simp only [HasFinalSigma, List.append_nil, not_exists, not_and]

/-! What is in lower case already. -/

theorem lowerChar_of_mem_lowerChar {c d : Char} (member : d ∈ lowerChar c) :
    lowerChar d = [d] := by
  rcases lowerChar_eq_or_settled c with same | settled
  · rw [same] at member
    obtain rfl := List.mem_singleton.mp member
    exact same
  · exact (settled d member).lowerChar_eq

theorem lowerChar_of_mem_lowerEach {cs : List Char} {d : Char}
    (member : d ∈ lowerEach cs) : lowerChar d = [d] := by
  obtain ⟨c, -, image⟩ := List.mem_flatMap.mp member
  exact lowerChar_of_mem_lowerChar image

theorem sigma_not_mem_lowerEach (cs : List Char) : 'Σ' ∉ lowerEach cs := by
  intro member
  have settled := lowerChar_of_mem_lowerEach member
  rw [lowerChar_sigma] at settled
  exact absurd (List.cons.inj settled).1 (by decide)

@[simp] theorem lowerEach_lowerEach (cs : List Char) :
    lowerEach (lowerEach cs) = lowerEach cs :=
  lowerEach_eq_self fun _ member => lowerChar_of_mem_lowerEach member

@[simp] theorem lower_ofList_lowerEach (cs : List Char) :
    lower (String.ofList (lowerEach cs)) = String.ofList (lowerEach cs) := by
  have same :=
    (lower_eq_ofList_lowerEach_iff (String.ofList (lowerEach cs))).mpr
  rw [String.toList_ofList, lowerEach_lowerEach] at same
  apply same
  intro final
  obtain ⟨front, rest, split, -⟩ := final
  apply sigma_not_mem_lowerEach cs
  rw [split]
  exact List.mem_append_right _ List.mem_cons_self

/-- But for final sigmas, a text is lower-cased to what its characters are. -/
theorem mem_lowerAfter {before cs : List Char} {d : Char}
    (member : d ∈ lowerAfter before cs) : d = 'ς' ∨ d ∈ lowerEach cs := by
  induction cs generalizing before with
  | nil => cases member
  | cons c cs ih =>
      rw [lowerAfter] at member
      rw [lowerEach_cons, List.mem_append]
      rcases List.mem_append.mp member with here | later
      · split at here
        · next sigma =>
            rw [sigma, lowerChar_sigma]
            split at here
            · exact .inl (List.mem_singleton.mp here)
            · exact .inr (.inl here)
        · exact .inr (.inl here)
      · exact (ih later).imp_right .inr

theorem pipe_not_mem_lower {s : String} (pipeless : '|' ∉ s.toList) :
    '|' ∉ (lower s).toList := by
  rw [lower, String.toList_ofList]
  intro member
  rcases mem_lowerAfter member with final | member
  · exact absurd final (by decide)
  · exact pipe_not_mem_lowerEach pipeless member

theorem lowerChar_of_mem_lower {s : String} {d : Char}
    (member : d ∈ (lower s).toList) : lowerChar d = [d] := by
  rw [lower, String.toList_ofList] at member
  rcases mem_lowerAfter member with rfl | member
  · decide +kernel
  · exact lowerChar_of_mem_lowerEach member

theorem lower_eq_self_iff {s : String} :
    lower s = s ↔ ∀ c ∈ s.toList, lowerChar c = [c] := by
  constructor
  · intro same c member
    rw [← same] at member
    exact lowerChar_of_mem_lower member
  · intro settled
    have each : lowerEach s.toList = s.toList := lowerEach_eq_self settled
    have whole := lower_ofList_lowerEach s.toList
    rwa [each, String.ofList_toList] at whole

theorem lower_lower (s : String) : lower (lower s) = lower s :=
  lower_eq_self_iff.mpr fun _ member => lowerChar_of_mem_lower member

/-- A character that ends the word before it: case neither ignores it nor is it
a letter with case. -/
structure Divides (c : Char) : Prop where
  notIgnorable : caseIgnorables.holds c.toNat = false
  notCased : casedLetters.holds c.toNat = false

theorem divides_pipe : Divides '|' :=
  ⟨by decide +kernel, by decide +kernel⟩

theorem lowerChar_pipe : lowerChar '|' = ['|'] := by
  decide +kernel

section

variable {c : Char} (divides : Divides c)
include divides

theorem meetsCased_append_cons (cs rest : List Char) :
    meetsCased (cs ++ c :: rest) = meetsCased cs := by
  induction cs with
  | nil =>
      simp only [List.nil_append, meetsCased, divides.notIgnorable,
        divides.notCased, Bool.false_eq_true,
      if_false]
  | cons d cs ih => simp only [List.cons_append, meetsCased, ih]

theorem lowerAfter_append_cons_before (near far rest : List Char) :
    lowerAfter (near ++ c :: far) rest = lowerAfter near rest := by
  induction rest generalizing near with
  | nil => rfl
  | cons d rest ih =>
      have later := ih (d :: near)
      rw [List.cons_append] at later
      simp only [lowerAfter, meetsCased_append_cons divides, later]

/-- What stands on either side of such a character is lower-cased on its own. -/
theorem lowerAfter_append_cons (notSigma : c ≠ 'Σ')
    (before cs rest : List Char) :
    lowerAfter before (cs ++ c :: rest) = lowerAfter before cs ++ lowerChar c ++
      lowerAfter [] rest := by
  induction cs generalizing before with
  | nil =>
      have later : lowerAfter (c :: before) rest = lowerAfter [] rest :=
        lowerAfter_append_cons_before divides [] before rest
      rw [List.nil_append, lowerAfter_cons_of_ne before rest notSigma, later]
      rfl
  | cons d cs ih =>
      simp only [List.cons_append, lowerAfter, meetsCased_append_cons divides,
        ih, List.append_assoc]

end

theorem lowerAfter_piped (first : List Char) (others : List (List Char)) :
    lowerAfter [] (first ++ others.flatMap ('|' :: ·)) =
      lowerAfter [] first ++ (others.map (lowerAfter [])).flatMap
        ('|' :: ·) := by
  induction others generalizing first with
  | nil => simp
  | cons second others ih =>
      simp only [List.flatMap_cons, List.map_cons, List.cons_append,
        lowerAfter_append_cons divides_pipe (by decide), lowerChar_pipe, ih,
        List.append_assoc, List.nil_append]

end RowAudit.Text
