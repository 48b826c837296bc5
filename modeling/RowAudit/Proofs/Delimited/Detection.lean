import RowAudit.Proofs.Delimited.Bytes
import RowAudit.Sheet.Reading

/-!
What the guess of a delimiter rests on: the lines among the first ten that are
not blank, and in them the characters outside quotation marks. A candidate that
stands equally often in all of these lines is found whatever else stands in
them, if no other stands as often in the first; and none is found that the first
does not have.
-/

namespace RowAudit

namespace Delimited

/-! Counting outside quotation marks. -/

/-- Whether a character stands at a position of a line with closed quotation
marks before it. -/
def StandsOutside (c : Char) (cs : List Char) (position : Nat) : Prop :=
  cs[position]? = some c ∧ (cs.take position).count '"' % 2 = 0

instance (c : Char) (cs : List Char) : DecidablePred (StandsOutside c cs) :=
  fun _ =>
  inferInstanceAs (Decidable (_ ∧ _))

def occurrences (c : Char) (line : List Char) : Nat :=
  (List.range line.length).countP fun position => StandsOutside c line position

/-- The scan counts the positions before which the quotation marks, with the one
that may be open, are even. -/
theorem countOutside_eq_countP {c : Char} (notQuote : c ≠ '"') (inQuotes : Bool)
    (cs : List Char) :
    countOutside c inQuotes cs = (List.range cs.length).countP fun position =>
      cs[position]? = some c ∧
        ((cs.take position).count '"' + inQuotes.toNat) % 2 = 0 := by
  induction cs generalizing inQuotes with
  | nil => rfl
  | cons d rest ih =>
      rw [List.length_cons, List.range_succ_eq_map, List.countP_cons,
        List.countP_map, countOutside]
      by_cases quote : d = '"'
      · subst quote
        have turned (n : Nat) : (n + 1 + inQuotes.toNat) % 2 = 0 ↔
            (n + (!inQuotes).toNat) % 2 = 0 := by
          cases inQuotes with
          | false => rfl
          | true =>
              rw [Bool.not_true, Bool.toNat_true, Bool.toNat_false]
              omega
        simp [ih, Function.comp_def, turned, notQuote.symm]
      · by_cases same : d = c
        · subst same
          cases inQuotes <;> simp [ih, Function.comp_def, quote]
        · simp [ih, Function.comp_def, quote, same]

theorem countOutside_eq_occurrences {c : Char} (notQuote : c ≠ '"')
    (line : List Char) : countOutside c false line = occurrences c line :=
  countOutside_eq_countP notQuote false line

/-! Merits. -/

variable {candidate : Mark} {first : Nat} {others : List Nat}

theorem merit_eq_zero_iff :
    merit candidate (first :: others) = 0 ↔ first = 0 := by
  rw [merit]
  constructor
  · intro none
    split at none
    · next zero => exact zero
    · split at none
      · omega
      · split at none <;> omega
  · exact fun zero => if_pos zero

/-- Equal counts and the preference for tabs are worth less than one more of the
delimiter in the first line. -/
theorem merit_le : merit candidate (first :: others) ≤ first * 1000 + 100 := by
  rw [merit]
  split
  · exact Nat.zero_le _
  · split
    · split <;> omega
    · split <;> omega

theorem le_merit_of_all (notPipe : candidate ≠ .pipe)
    (all : ∀ count ∈ others, count = first) :
    first * 1000 ≤ merit candidate (first :: others) := by
  have even : others.all (· = first) = true :=
    List.all_eq_true.mpr fun count member => decide_eq_true (all count member)
  rw [merit]
  split
  · next zero => exact Nat.le_of_eq (by rw [zero])
  · rw [if_pos ⟨even, notPipe⟩]
    exact Nat.le_add_right _ _

/-! The first candidate of the highest merit. -/

def better (rank : Mark → Nat) (best : Mark × Nat) (candidate : Mark) :
    Mark × Nat :=
  if best.2 < rank candidate then (candidate, rank candidate) else best

/-- What has come out best behind some candidates: one of them that has no less
than the others and more than there was to beat, or what was there. -/
structure Leads (rank : Mark → Nat) (start : Mark × Nat) (seen : List Mark)
    (best : Mark × Nat) : Prop where
  ahead : best = start ∨ best.1 ∈ seen ∧ best.2 = rank best.1 ∧ start.2 < best.2
  highest : ∀ candidate ∈ seen, rank candidate ≤ best.2

namespace Leads

variable {rank : Mark → Nat} {start best : Mark × Nat} {seen : List Mark}

theorem nil (rank : Mark → Nat) (start : Mark × Nat) :
    Leads rank start [] start :=
  ⟨.inl rfl, fun _ member => nomatch member⟩

theorem le (leads : Leads rank start seen best) : start.2 ≤ best.2 := by
  rcases leads.ahead with rfl | ⟨-, -, more⟩
  · exact Nat.le_refl _
  · exact Nat.le_of_lt more

theorem step (leads : Leads rank start seen best) (candidate : Mark) :
    Leads rank start (seen ++ [candidate]) (better rank best candidate) := by
  have before := leads.le
  rw [better]
  split
  · next more =>
      refine ⟨.inr ⟨List.mem_append_right _ List.mem_cons_self, rfl,
        Nat.lt_of_le_of_lt before more⟩, ?_⟩
      intro other member
      rcases List.mem_append.mp member with earlier | last
      · exact Nat.le_of_lt
          (Nat.lt_of_le_of_lt (leads.highest other earlier) more)
      · exact Nat.le_of_eq (congrArg rank (List.mem_singleton.mp last))
  · next notMore =>
      refine ⟨leads.ahead.imp_right fun found =>
        ⟨List.mem_append_left _ found.1, found.2⟩, ?_⟩
      intro other member
      rcases List.mem_append.mp member with earlier | last
      · exact leads.highest other earlier
      · rw [List.mem_singleton.mp last]
        exact Nat.le_of_not_lt notMore

theorem foldl (leads : Leads rank start seen best) (rest : List Mark) :
    Leads rank start (seen ++ rest) (rest.foldl (better rank) best) := by
  induction rest generalizing seen best with
  | nil =>
      rw [List.append_nil]
      exact leads
  | cons candidate rest ih =>
      have later := ih (leads.step candidate)
      rw [List.append_assoc, List.singleton_append] at later
      exact later

/-- A candidate that has more than any other and more than there was to beat
comes out best. -/
theorem eq_of_dominates (leads : Leads rank start seen best) {winner : Mark}
    (member : winner ∈ seen) (more : start.2 < rank winner)
    (dominates : ∀ other ∈ seen, other ≠ winner → rank other < rank winner) :
    best.1 = winner := by
  have highest := leads.highest winner member
  rcases leads.ahead with rfl | ⟨among, value, -⟩
  · omega
  · by_cases same : best.1 = winner
    · exact same
    · have less := dominates best.1 among same
      omega

end Leads

theorem leads_bestCandidate (lines : List (List Char)) :
    ∃ best, Leads (score lines) (.comma, 0) candidates best ∧
      bestCandidate lines = best.1 :=
  ⟨_, (Leads.nil (score lines) (.comma, 0)).foldl candidates, rfl⟩

theorem bestCandidate_eq_of_dominates {lines : List (List Char)} {winner : Mark}
    (member : winner ∈ candidates) (more : 0 < score lines winner)
    (dominates : ∀ other ∈ candidates, other ≠ winner →
      score lines other < score lines winner) :
    bestCandidate lines = winner := by
  obtain ⟨best, leads, result⟩ := leads_bestCandidate lines
  rw [result]
  exact leads.eq_of_dominates member more dominates

theorem bestCandidate_mem (lines : List (List Char)) :
    bestCandidate lines ∈ candidates := by
  obtain ⟨best, leads, result⟩ := leads_bestCandidate lines
  rw [result]
  rcases leads.ahead with rfl | ⟨among, -, -⟩
  · decide
  · exact among

theorem mem_candidates_iff :
    candidate ∈ candidates ↔
      candidate ∈ [Mark.tab, .comma, .semicolon] ∨ candidate = .pipe := by
  simp [candidates, or_assoc]

theorem ne_pipe_of_mem (member : candidate ∈ [Mark.tab, .comma, .semicolon]) :
    candidate ≠ .pipe := by
  rintro rfl
  exact absurd member (by decide)

theorem candidate_plain (isCandidate : candidate ∈ candidates) :
    candidate.IsAscii ∧ candidate.toChar ≠ '"' := by
  have one : candidate = .tab ∨ candidate = .comma ∨ candidate = .semicolon ∨
      candidate = .pipe := by
    simpa [candidates] using isCandidate
  rcases one with rfl | rfl | rfl | rfl <;> exact ⟨by decide, by decide⟩

section

variable {line : List Char} {rest : List (List Char)}

theorem score_cons (isCandidate : candidate ∈ candidates) :
    score (line :: rest) candidate =
      merit candidate
        (occurrences candidate.toChar line ::
          rest.map (occurrences candidate.toChar)) := by
  have counted := countOutside_eq_occurrences (candidate_plain isCandidate).2
  rw [score, List.map_cons, counted, List.map_congr_left fun line _ =>
    counted line]

theorem score_pos_iff (isCandidate : candidate ∈ candidates) :
    0 < score (line :: rest) candidate ↔
      0 < occurrences candidate.toChar line := by
  rw [score_cons isCandidate, Nat.pos_iff_ne_zero, Nat.pos_iff_ne_zero, ne_eq,
    merit_eq_zero_iff]

theorem score_lt_of_regular {other : Mark} {count : Nat}
    (isCandidate : candidate ∈ candidates) (otherCandidate : other ∈ candidates)
    (notPipe : candidate ≠ .pipe)
    (regular : ∀ other ∈ line :: rest,
      occurrences candidate.toChar other = count)
    (fewer : occurrences other.toChar line < count) :
    score (line :: rest) other < score (line :: rest) candidate := by
  obtain ⟨here, later⟩ := List.forall_mem_cons.mp regular
  have most : score (line :: rest) other ≤ occurrences other.toChar line *
      1000 + 100 := by
    rw [score_cons otherCandidate]
    exact merit_le
  have least : count * 1000 ≤ score (line :: rest) candidate := by
    rw [score_cons isCandidate, here]
    exact le_merit_of_all notPipe (List.forall_mem_map.mpr later)
  omega

end

/-! The guess. -/

/-- The lines that tell the delimiter: those of the first ten that are texts and
not blank. -/
def tellingLines (lines : List (Option (List Char))) : List (List Char) :=
  ((lines.take 10).filterMap id).filter fun line => !line.all Text.isBlank

def textLines (text : String) : List (Option (List Char)) :=
  (Text.pieces '\n' text.toList).map some

def fileLines (content : List UInt8) : List (Option (List Char)) :=
  (Text.pieces 10 content).map fun line => (Text.decode? line).map String.toList

/-- What lines tell of the delimiter. -/
structure Tell (lines : List (List Char)) (found : Except Fault Mark) :
    Prop where
  fails_iff : found = .error .noLines ↔ lines = []
  occurs : ∀ first rest, lines = first :: rest → ∃ delimiter,
    found = .ok delimiter ∧
    (delimiter = .comma ∨ delimiter ∈ candidates ∧
      0 < occurrences delimiter.toChar first)
  regular : ∀ first rest, lines = first :: rest →
    ∀ delimiter ∈ [Mark.tab, .comma, .semicolon], ∀ count, 1 ≤ count →
    (∀ line ∈ lines, occurrences delimiter.toChar line = count) →
    (∀ other ∈ [Mark.tab, .comma, .semicolon, .pipe], other ≠ delimiter →
      occurrences other.toChar first < count) →
    found = .ok delimiter
  pipes : ∀ first rest, lines = first :: rest → 0 < occurrences '|' first →
    (∀ other ∈ [Mark.tab, .comma, .semicolon],
      occurrences other.toChar first = 0) →
    found = .ok .pipe

section

variable (line : List Char) (rest : List (List Char))

theorem occurs_bestCandidate : bestCandidate (line :: rest) = .comma ∨
    bestCandidate (line :: rest) ∈ candidates ∧
      0 < occurrences (bestCandidate (line :: rest)).toChar line := by
  obtain ⟨best, leads, result⟩ := leads_bestCandidate (line :: rest)
  rw [result]
  rcases leads.ahead with rfl | ⟨among, value, more⟩
  · exact .inl rfl
  · rw [value] at more
    exact .inr ⟨among, (score_pos_iff among).mp more⟩

variable {line rest}

theorem bestCandidate_of_regular (isCandidate : candidate ∈ candidates)
    (notPipe : candidate ≠ .pipe) {count : Nat} (some : 1 ≤ count)
    (regular : ∀ other ∈ line :: rest,
      occurrences candidate.toChar other = count)
    (fewer : ∀ other ∈ candidates, other ≠ candidate →
        occurrences other.toChar line < count) :
    bestCandidate (line :: rest) = candidate := by
  apply bestCandidate_eq_of_dominates isCandidate
  · rw [score_pos_iff isCandidate, regular line List.mem_cons_self]
    exact some
  · intro other member different
    exact score_lt_of_regular isCandidate member notPipe regular
      (fewer other member different)

theorem bestCandidate_of_alone (isCandidate : candidate ∈ candidates)
    (found : 0 < occurrences candidate.toChar line)
    (alone : ∀ other ∈ candidates, other ≠ candidate →
      occurrences other.toChar line = 0) :
    bestCandidate (line :: rest) = candidate := by
  have positive : 0 < score (line :: rest) candidate :=
    (score_pos_iff isCandidate).mpr found
  apply bestCandidate_eq_of_dominates isCandidate positive
  intro other member different
  rw [score_cons member, merit_eq_zero_iff.mpr (alone other member different)]
  exact positive

end

theorem detect?_eq (lines : List (Option (List Char))) :
    detect? lines = if tellingLines lines = [] then none
      else some (bestCandidate (tellingLines lines)) :=
  rfl

theorem isAscii_of_detect? {lines : List (Option (List Char))}
    {delimiter : Mark} (guessed : detect? lines = some delimiter) :
    delimiter.IsAscii := by
  rw [detect?_eq] at guessed
  split at guessed
  · cases guessed
  · obtain rfl := Option.some.inj guessed
    exact (candidate_plain (bestCandidate_mem _)).1

end Delimited

namespace Reading

open Delimited

theorem chosenDelimiter_eq (reading : Reading)
    (lines : List (Option (List Char))) :
    ({ reading with delimiter := none } : Reading).chosenDelimiter lines =
      if tellingLines lines = [] then .error .noLines
      else .ok (bestCandidate (tellingLines lines)) := by
  simp only [chosenDelimiter, detect?_eq]
  by_cases none : tellingLines lines = []
  · rw [if_pos none, if_pos none]
  · rw [if_neg none, if_neg none]

theorem tell_chosenDelimiter (reading : Reading)
    (lines : List (Option (List Char))) :
    Tell (tellingLines lines)
      (({ reading with delimiter := none } : Reading).chosenDelimiter
        lines) := by
  rw [chosenDelimiter_eq]
  cases tellingLines lines with
  | nil =>
      exact {
        fails_iff := iff_of_true rfl rfl
        occurs := fun _ _ none => nomatch none
        regular := fun _ _ none => nomatch none
        pipes := fun _ _ none => nomatch none
      }
  | cons line rest =>
      rw [if_neg (List.cons_ne_nil line rest)]
      exact {
        fails_iff :=
          iff_of_false (fun same => nomatch same) (List.cons_ne_nil line rest)
        occurs := by
          rintro _ _ ⟨⟩
          exact ⟨_, rfl, occurs_bestCandidate line rest⟩
        regular := by
          rintro _ _ ⟨⟩ delimiter member count some regular fewer
          exact congrArg Except.ok
            (bestCandidate_of_regular (mem_candidates_iff.mpr (.inl member))
              (ne_pipe_of_mem member) some regular fewer)
        pipes := by
          rintro _ _ ⟨⟩ found alone
          refine congrArg Except.ok
            (bestCandidate_of_alone (by decide) found ?_)
          intro other member notPipe
          exact alone other
            ((mem_candidates_iff.mp member).resolve_right notPipe)
      }

/-- The delimiter of a text or of a file, where none is given, is what its lines
tell. -/
theorem tell_delimiter (reading : Reading) :
    (∀ text, Tell (tellingLines (textLines text))
      (({ reading with delimiter := none } : Reading).chosenDelimiter
        (textLines text))) ∧
    ∀ content, Tell (tellingLines (fileLines content))
      (({ reading with delimiter := none } : Reading).chosenDelimiter
        (fileLines content)) :=
  ⟨fun text => tell_chosenDelimiter reading (textLines text),
    fun content => tell_chosenDelimiter reading (fileLines content)⟩

example :
    detect? (textLines "no,condition\n1,status=='a'|'b'|'c'\n") =
      some .comma := by
  decide +kernel

end Reading

end RowAudit
