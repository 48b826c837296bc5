import RowAudit.Delimited.Writer
import RowAudit.Proofs.Delimited.Reader

/-!
What was written is read back. A written field leaves the reader behind the
field, a written line behind its record; a line without a character would be
read as no record, so that record is written with its quotes.
-/

namespace RowAudit.Delimited

def Dialect.written : Dialect :=
  ⟨.comma, .quotationMark⟩

def line (fields : List (List Char)) : List Char :=
  ((fields.map writeField).intersperse [',']).flatten

variable {stage : Stage} {field : List Char} {fields : List (List Char)}
  {rest : List Char}

theorem line_singleton (field : List Char) :
    line [field] = writeField field := by
  simp [line]

theorem line_cons_cons (first second : List Char) (others : List (List Char)) :
    line (first :: second :: others) = writeField first ++ ',' ::
      line (second :: others) := by
  simp [line]

theorem writeRecord_of_line_ne_nil (written : line fields ≠ []) :
    writeRecord fields = line fields ++ ['\n'] := by
  rw [writeRecord]
  exact congrArg (· ++ ['\n']) (if_neg written)

theorem writeField_eq_nil_iff : writeField field = [] ↔ field = [] := by
  rw [writeField]
  split
  · next quoted =>
      constructor
      · intro none
        cases none
      · intro none
        subst none
        cases quoted
  · exact Iff.rfl

theorem line_eq_nil_iff (nonempty : fields ≠ []) :
    line fields = [] ↔ fields = [[]] := by
  cases fields with
  | nil => exact absurd rfl nonempty
  | cons first others =>
      cases others with
      | nil =>
          rw [line_singleton, writeField_eq_nil_iff, List.cons.injEq,
            and_iff_left rfl]
      | cons second others => simp [line_cons_cons]

namespace Dialect.written

theorem foreign_of_not_needsQuotes (plain : needsQuotes field = false) :
    ∀ c ∈ field, written.characters.Foreign c := by
  intro c member
  have ordinary := List.any_eq_false.mp plain c member
  simp only [Bool.or_eq_true, decide_eq_true_eq, not_or] at ordinary
  exact ⟨ordinary.1.1.1, ordinary.1.1.2, ordinary.1.2, ordinary.2⟩

/-- Inside quotes, all that was written is the content of the field. -/
theorem readFrom_doubleQuotes (seen content : List Char) :
    written.characters.readFrom .quoted seen fields
      (doubleQuotes content ++ rest) =
      written.characters.readFrom .quoted
        (content.reverse ++ seen) fields rest := by
  induction content generalizing seen with
  | nil => rfl
  | cons c content ih =>
      have turned :
          (c :: content).reverse ++ seen = content.reverse ++ c :: seen := by
        simp
      rw [turned, ← ih (c :: seen)]
      by_cases quote : c = '"'
      · subst quote
        rfl
      · have once :
            doubleQuotes (c :: content) = c :: doubleQuotes content := by
          rw [doubleQuotes, List.flatMap_cons, if_neg quote]
          rfl
        have kept : written.characters.move .quoted c = .keep .quoted :=
          if_neg quote
        rw [once, List.cons_append, Symbols.readFrom_of_keep kept]

theorem exists_readFrom_writeField
    (begins : stage = .recordStart ∨ stage = .fieldStart) (field : List Char)
    (fields : List (List Char)) (rest : List Char) :
    ∃ next, (next = stage ∧ field = [] ∨ next = .plain ∨ next = .quoteSeen) ∧
      written.characters.readFrom stage [] fields (writeField field ++ rest) =
        written.characters.readFrom next field.reverse fields rest := by
  cases quoted : needsQuotes field with
  | false =>
      rw [writeField, quoted, if_neg Bool.false_ne_true]
      by_cases none : field = []
      · subst none
        exact ⟨stage, .inl ⟨rfl, rfl⟩, rfl⟩
      · have read :
            written.characters.readFrom stage [] fields (field ++ rest) =
            written.characters.readFrom stage.onward
              (field.reverse ++ []) fields rest :=
          Symbols.readFrom_append_of_foreign none
            (foreign_of_not_needsQuotes quoted)
        rw [List.append_nil] at read
        have plain : stage.onward = .plain := by
          rcases begins with rfl | rfl
          · rfl
          · rfl
        exact ⟨.plain, .inr (.inl rfl), plain ▸ read⟩
  | true =>
      refine ⟨.quoteSeen, .inr (.inr rfl), ?_⟩
      have opened : written.characters.move stage '"' = .skip .quoted := by
        rcases begins with rfl | rfl
        · rfl
        · rfl
      rw [writeField, quoted, if_pos rfl, List.cons_append, List.cons_append,
        List.append_assoc, Symbols.readFrom_of_skip opened,
        readFrom_doubleQuotes, List.append_nil]
      rfl

theorem readFrom_writeField_comma
    (begins : stage = .recordStart ∨ stage = .fieldStart) :
    written.characters.readFrom stage [] fields
      (writeField field ++ ',' :: rest) =
      written.characters.readFrom .fieldStart [] (field :: fields) rest := by
  obtain ⟨next, stands, read⟩ :=
    exists_readFrom_writeField begins field fields (',' :: rest)
  have ends : written.characters.move next ',' = .endField := by
    rcases stands with ⟨rfl, -⟩ | rfl | rfl
    · rcases begins with rfl | rfl
      · rfl
      · rfl
    · rfl
    · rfl
  rw [read, Symbols.readFrom_of_endField ends, List.reverse_reverse]

theorem readFrom_writeField_lineFeed
    (begins : stage = .recordStart ∧ field ≠ [] ∨ stage = .fieldStart) :
    written.characters.readFrom stage [] fields
      (writeField field ++ '\n' :: rest) =
      (field :: fields).reverse :: written.characters.readFrom .recordStart []
        [] rest := by
  obtain ⟨next, stands, read⟩ := 
    exists_readFrom_writeField (begins.imp_left And.left) field fields
      ('\n' :: rest)
  have ends : written.characters.move next '\n' = .endRecord := by
    rcases stands with ⟨rfl, none⟩ | rfl | rfl
    · rcases begins with ⟨-, some⟩ | rfl
      · exact absurd none some
      · rfl
    · rfl
    · rfl
  rw [read, Symbols.readFrom_of_endRecord ends, List.reverse_reverse]

/-- A line is read as the fields that it was written from, unless it is an empty
line. -/
theorem readFrom_line (nonempty : fields ≠ [])
    (begins : stage = .recordStart ∧ fields ≠ [[]] ∨ stage = .fieldStart)
    (before : List (List Char)) :
    written.characters.readFrom stage [] before (line fields ++ '\n' :: rest) =
      (before.reverse ++ fields) :: written.characters.readFrom .recordStart []
        [] rest := by
  induction fields generalizing stage before with
  | nil => exact absurd rfl nonempty
  | cons first others ih =>
      cases others with
      | nil =>
          have begins :
              stage = .recordStart ∧ first ≠ [] ∨ stage = .fieldStart :=
            begins.imp_left fun recordStart =>
              recordStart.imp_right fun some none => some (none ▸ rfl)
          rw [line_singleton, readFrom_writeField_lineFeed begins,
            List.reverse_cons]
      | cons second others =>
          rw [line_cons_cons, List.append_assoc, List.cons_append,
            readFrom_writeField_comma (begins.imp_left And.left),
            ih (List.cons_ne_nil _ _) (.inr rfl), List.reverse_cons,
            List.append_assoc, List.singleton_append]

theorem readFrom_writeRecord (nonempty : fields ≠ []) :
    written.characters.readFrom .recordStart [] []
      (writeRecord fields ++ rest) =
      fields :: written.characters.readFrom .recordStart [] [] rest := by
  by_cases single : fields = [[]]
  · subst single
    rfl
  · have some : line fields ≠ [] := mt (line_eq_nil_iff nonempty).mp single
    rw [writeRecord_of_line_ne_nil some, List.append_assoc,
      List.singleton_append, readFrom_line nonempty (.inl ⟨rfl, single⟩)]
    rfl

theorem readFrom_flatMap_writeRecord {records : List (List (List Char))}
    (nonempty : ∀ record ∈ records, record ≠ []) :
    written.characters.readFrom .recordStart [] []
      (records.flatMap writeRecord) = records := by
  induction records with
  | nil => rfl
  | cons record records ih =>
      obtain ⟨here, later⟩ := List.forall_mem_cons.mp nonempty
      rw [List.flatMap_cons, readFrom_writeRecord here, ih later]

/-! The byte order mark. -/

theorem head?_writeField_ne (unmarked : field.head? ≠ some '\ufeff') :
    (writeField field).head? ≠ some '\ufeff' := by
  rw [writeField]
  split
  · exact fun same => absurd (Option.some.inj same) (by decide)
  · exact unmarked

theorem head?_line_ne {first : List Char} (others : List (List Char))
    (unmarked : first.head? ≠ some '\ufeff') :
    (line (first :: others)).head? ≠ some '\ufeff' := by
  have field := head?_writeField_ne unmarked
  cases others with
  | nil => rwa [line_singleton]
  | cons second others =>
      rw [line_cons_cons, List.head?_append]
      cases start : (writeField first).head? with
      | none => exact fun same => absurd (Option.some.inj same) (by decide)
      | some c => rwa [start] at field

theorem head?_writeRecord_ne {first : List Char} (others : List (List Char))
    (unmarked : first.head? ≠ some '\ufeff') :
    (writeRecord (first :: others)).head? ≠ some '\ufeff' := by
  have start := head?_line_ne others unmarked
  cases written : line (first :: others) with
  | nil =>
      obtain ⟨rfl, rfl⟩ :=
        List.cons.inj ((line_eq_nil_iff (List.cons_ne_nil _ _)).mp written)
      decide
  | cons c cs =>
      rw [writeRecord_of_line_ne_nil (written ▸ List.cons_ne_nil c cs), written]
      rwa [written] at start

theorem unmarked_of_head?_ne {input : List Char}
    (unmarked : input.head? ≠ some '\ufeff') :
    written.characters.unmarked input = input := by
  apply if_neg
  intro marked
  obtain ⟨rest, rfl⟩ := List.isPrefixOf_iff_prefix.mp marked
  exact unmarked rfl

theorem records_write {first : List Char} {others : List (List Char)}
    {rest : List (List (List Char))} (unmarked : first.head? ≠ some '\ufeff')
    (nonempty : ∀ record ∈ rest, record ≠ []) :
    written.characters.records (write ((first :: others) :: rest)).toList =
      (first :: others) :: rest := by
  have start : (((first :: others) :: rest).flatMap writeRecord).head? ≠
      some '\ufeff' := by
    have record := head?_writeRecord_ne others unmarked
    rw [List.flatMap_cons, List.head?_append]
    cases begins : (writeRecord (first :: others)).head? with
    | none => simp [writeRecord] at begins
    | some c => rwa [begins] at record
  rw [write, String.toList_ofList, Symbols.records, unmarked_of_head?_ne start,
    readFrom_flatMap_writeRecord
      (List.forall_mem_cons.mpr ⟨List.cons_ne_nil first others, nonempty⟩)]

end Dialect.written

end RowAudit.Delimited
