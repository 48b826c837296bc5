import RowAudit.Text.WholeWord

namespace RowAudit.Text

/-- `word` stands somewhere in `cs` with a word boundary at both ends. -/
def WholeWord (word cs : List Char) : Prop :=
  ∃ before after, cs = before ++ word ++ after ∧
    isBoundary before.getLast? (word ++ after).head? = true ∧
    isBoundary (before ++ word).getLast? after.head? = true

theorem startsWithWord_iff {word cs : List Char} {before : Option Char} :
    startsWithWord word before cs = true ↔
      ∃ after, cs = word ++ after ∧
        isBoundary before (word ++ after).head? = true ∧
        isBoundary (word.getLast?.or before) after.head? = true := by
  simp only [startsWithWord, Bool.and_eq_true, List.isPrefixOf_iff_prefix]
  constructor
  · intro found
    obtain ⟨⟨⟨after, rfl⟩, first⟩, last⟩ := found
    exact ⟨after, rfl, first, by simpa using last⟩
  · intro found
    obtain ⟨after, rfl, first, last⟩ := found
    exact ⟨⟨⟨after, rfl⟩, first⟩, by simpa using last⟩

/-- The scan tries every cut of the text, each with the character in front of
it. -/
theorem mentionsAfter_iff {word cs : List Char} {before : Option Char} :
    mentionsAfter word before cs = true ↔
      ∃ front rest, cs = front ++ rest ∧
        startsWithWord word (front.getLast?.or before) rest = true := by
  induction cs generalizing before with
  | nil =>
      constructor
      · intro found
        exact ⟨[], [], rfl, found⟩
      · intro found
        obtain ⟨front, rest, whole, found⟩ := found
        obtain ⟨rfl, rfl⟩ := List.nil_eq_append_iff.mp whole
        exact found
  | cons c cs ih =>
      simp only [mentionsAfter, Bool.or_eq_true, ih]
      constructor
      · intro found
        rcases found with here | ⟨front, rest, rfl, found⟩
        · exact ⟨[], c :: cs, rfl, here⟩
        · refine ⟨c :: front, rest, rfl, ?_⟩
          cases front <;> simpa [List.getLast?_cons] using found
      · intro found
        obtain ⟨front, rest, whole, found⟩ := found
        cases front with
        | nil =>
            obtain rfl : c :: cs = rest := whole
            exact .inl found
        | cons d front =>
            obtain ⟨rfl, rfl⟩ := List.cons.inj whole
            refine .inr ⟨front, rest, rfl, ?_⟩
            cases front <;> simpa [List.getLast?_cons] using found

theorem mentions_iff {cs word : List Char} :
    mentions cs word = true ↔ WholeWord word cs := by
  simp only [mentions, mentionsAfter_iff, startsWithWord_iff, Option.or_none]
  constructor
  · intro found
    obtain ⟨before, rest, rfl, after, rfl, first, last⟩ := found
    refine ⟨before, after, (List.append_assoc ..).symm, first, ?_⟩
    rwa [List.getLast?_append]
  · intro found
    obtain ⟨before, after, rfl, first, last⟩ := found
    refine ⟨before, word ++ after, List.append_assoc .., after, rfl, first, ?_⟩
    rwa [List.getLast?_append] at last

instance (word cs : List Char) : Decidable (WholeWord word cs) :=
  decidable_of_iff _ mentions_iff

end RowAudit.Text
