import RowAudit.Delimited.Reader

namespace RowAudit.Delimited

def Stage.onward : Stage → Stage
  | .quoted => .quoted
  | _ => .plain

@[simp] theorem Stage.onward_onward (stage : Stage) :
    stage.onward.onward = stage.onward := by
  cases stage <;> rfl

/-- The symbols as characters, where those of a text are read in place of its
bytes. -/
def Dialect.characters (dialect : Dialect) : Symbols Char where
  delimiter := dialect.delimiter.toChar
  quote := dialect.quote.toChar
  carriageReturn := '\r'
  lineFeed := '\n'
  byteOrderMark := ['\ufeff']

namespace Symbols

variable {α : Type} [DecidableEq α] {symbols : Symbols α}

/-- A symbol that neither separates nor quotes. -/
structure Foreign (symbols : Symbols α) (c : α) : Prop where
  notDelimiter : c ≠ symbols.delimiter
  notQuote : c ≠ symbols.quote
  notCarriageReturn : c ≠ symbols.carriageReturn
  notLineFeed : c ≠ symbols.lineFeed

theorem Foreign.not_isLineEnd {c : α} (foreign : symbols.Foreign c) :
    ¬ symbols.isLineEnd c = true := by
  simp [isLineEnd, foreign.notCarriageReturn, foreign.notLineFeed]

theorem Foreign.plainMove_eq {c : α} (foreign : symbols.Foreign c) :
    symbols.plainMove c = .keep .plain := by
  rw [plainMove, if_neg foreign.notDelimiter, if_neg foreign.not_isLineEnd]

theorem Foreign.move_eq {c : α} (foreign : symbols.Foreign c) (stage : Stage) :
    symbols.move stage c = .keep stage.onward := by
  have field : symbols.fieldMove c = .keep .plain := by
    rw [fieldMove, if_neg foreign.notQuote, foreign.plainMove_eq]
  cases stage with
  | recordStart =>
      rw [move, if_neg foreign.not_isLineEnd, field]
      rfl
  | fieldStart => exact field
  | plain => exact foreign.plainMove_eq
  | quoted => exact if_neg foreign.notQuote
  | quoteSeen =>
      rw [move, if_neg foreign.notQuote, foreign.plainMove_eq]
      rfl

variable {stage next : Stage} {field : List α} {fields : List (List α)} {c : α}
  {rest : List α}

theorem readFrom_of_keep (move : symbols.move stage c = .keep next) :
    symbols.readFrom stage field fields (c :: rest) =
      symbols.readFrom next (c :: field) fields rest := by
  rw [readFrom, move]

theorem readFrom_of_skip (move : symbols.move stage c = .skip next) :
    symbols.readFrom stage field fields (c :: rest) =
      symbols.readFrom next field fields rest := by
  rw [readFrom, move]

theorem readFrom_of_endField (move : symbols.move stage c = .endField) :
    symbols.readFrom stage field fields (c :: rest) =
      symbols.readFrom .fieldStart [] (field.reverse :: fields) rest := by
  rw [readFrom, move]

theorem readFrom_of_endRecord (move : symbols.move stage c = .endRecord) :
    symbols.readFrom stage field fields (c :: rest) =
      (field.reverse :: fields).reverse :: symbols.readFrom .recordStart []
        [] rest := by
  rw [readFrom, move]

theorem readFrom_append_of_foreign {cs : List α} (nonempty : cs ≠ [])
    (foreign : ∀ c ∈ cs, symbols.Foreign c) :
    symbols.readFrom stage field fields (cs ++ rest) =
      symbols.readFrom stage.onward (cs.reverse ++ field) fields rest := by
  induction cs generalizing stage field with
  | nil => exact absurd rfl nonempty
  | cons c cs ih =>
      obtain ⟨here, later⟩ := List.forall_mem_cons.mp foreign
      rw [List.cons_append, readFrom_of_keep (here.move_eq stage)]
      cases cs with
      | nil => rfl
      | cons d ds =>
          have turned : (c :: d :: ds).reverse ++ field = (d :: ds).reverse ++
              c :: field := by
            simp
          rw [ih (List.cons_ne_nil d ds) later, Stage.onward_onward, turned]

theorem ne_nil_of_mem_readFrom {input : List α} {record : List (List α)}
    (member : record ∈ symbols.readFrom stage field fields input) :
    record ≠ [] := by
  have whole : (field.reverse :: fields).reverse ≠ [] := by simp
  induction input generalizing stage field fields with
  | nil =>
      cases stage with
      | recordStart => cases member
      | fieldStart | plain | quoted | quoteSeen =>
          rw [List.mem_singleton.mp member]
          exact whole
  | cons c rest ih =>
      cases move : symbols.move stage c with
      | keep next =>
          rw [readFrom_of_keep move] at member
          exact ih member (by simp)
      | skip next =>
          rw [readFrom_of_skip move] at member
          exact ih member whole
      | endField =>
          rw [readFrom_of_endField move] at member
          exact ih member (by simp)
      | endRecord =>
          rw [readFrom_of_endRecord move] at member
          rcases List.mem_cons.mp member with rfl | later
          · exact whole
          · exact ih later (by simp)

end Symbols

end RowAudit.Delimited
