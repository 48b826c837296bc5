import RowAudit.Proofs.Sheet.Columns

/-!
The rows of a sheet by column. A row has each column that a header names, in the
order in which they first come up, and in it what stands under the last header
that names it; so blank cells at the end of a row, and the spelling of the
headers, make no difference.
-/

namespace RowAudit

theorem Text.occursIn_iff {part cs : List Char} :
    occursIn part cs = true ↔ part <:+: cs := by
  induction cs with
  | nil => rw [occursIn, List.isEmpty_iff, List.infix_nil]
  | cons c rest ih =>
      rw [occursIn, Bool.or_eq_true, List.isPrefixOf_iff_prefix, ih,
        List.infix_cons_iff]

/-- The position at which a name comes up for the last time. -/
structure Column.LastAt (names : List String) (name : String) (position : Nat) :
    Prop where
  here : names[position]? = some name
  last : ∀ later, position < later → names[later]? ≠ some name

namespace Column.LastAt

variable {names : List String} {name : String} {position : Nat}

theorem of_concat (names : List String) (name : String) :
    LastAt (names ++ [name]) name names.length := by
  refine ⟨List.getElem?_concat_length, ?_⟩
  intro later behind
  rw [List.getElem?_eq_none
    (by rw [List.length_append, List.length_singleton]; omega)]
  exact fun none => nomatch none

theorem append (found : LastAt names name position) {other : String}
    (different : other ≠ name) : LastAt (names ++ [other]) name position := by
  have within : position < names.length :=
    (List.getElem?_eq_some_iff.mp found.here).1
  refine ⟨by rw [List.getElem?_append_left within, found.here], ?_⟩
  intro later behind
  rcases Nat.lt_trichotomy later names.length with before | rfl | beyond
  · rw [List.getElem?_append_left before]
    exact found.last later behind
  · rw [List.getElem?_concat_length]
    exact fun same => different (Option.some.inj same)
  · rw [List.getElem?_eq_none
      (by rw [List.length_append, List.length_singleton]; omega)]
    exact fun none => nomatch none

end Column.LastAt

namespace Settings

def MarksDate (settings : Settings) (column : String) : Prop :=
  Column.normalize settings.dateMarker ≠ "" ∧
    (Column.normalize settings.dateMarker).toList <:+: column.toList

/-- What the cells of a row come to by column. -/
structure ByColumn (settings : Settings) (headers : List String)
    (cells : List Cell) (row : Row) : Prop where
  keys : row.keys = ((headers.map Column.normalize).filter (· ≠ "")).eraseDups
  distinct : row.keys.Nodup
  values : ∀ column ∈ row.keys, ∃ position,
    Column.LastAt (headers.map Column.normalize) column position ∧
    (settings.MarksDate column →
      row.get? column = some (cells.getD position .blank).toSerialDate) ∧
    (¬ settings.MarksDate column →
      row.get? column = some (cells.getD position .blank))

variable {settings : Settings} {headers : List String} {cells : List Cell}
  {column : String}

theorem isDateColumn_iff :
    settings.isDateColumn column = true ↔ settings.MarksDate column := by
  rw [isDateColumn, Bool.and_eq_true, decide_eq_true_eq, Text.occursIn_iff,
    MarksDate]

theorem keys_rowOf (settings : Settings) (headers : List String)
    (cells : List Cell) :
    (settings.rowOf headers cells).keys =
      ((headers.map Column.normalize).filter (· ≠ "")).eraseDups := by
  have key : (fun entry : String × Nat =>
        (if entry.1 = "" then none
          else some (entry.1,
            settings.readCell entry.1 (cells.getD entry.2 .blank))).map
            fun pair => Column.normalize pair.1) =
      (fun name => if name = "" then none else some (Column.normalize name)) ∘
      Prod.fst := by
    funext entry
    dsimp only [Function.comp]
    split <;> rfl
  -- The names are normalised once more on their way into the row, which leaves
  -- them as they are.
  have normal : ∀ name ∈ headers.map Column.normalize,
      (if name = "" then none else some (Column.normalize name)) =
        Option.guard (· ≠ "") name := by
    intro name member
    obtain ⟨header, -, rfl⟩ := List.mem_map.mp member
    rw [Column.normalize_normalize]
    by_cases nameless : Column.normalize header = ""
    · rw [if_pos nameless, Option.guard, if_neg (by simp [nameless])]
    · rw [if_neg nameless, Option.guard, if_pos (by simp [nameless])]
  rw [rowOf, ColumnMap.keys_ofList, List.map_filterMap, key,
    ← List.filterMap_map, List.zipIdx_map_fst, List.filterMap_congr normal,
    List.filterMap_eq_filter]

theorem exists_lastAt (named : column ≠ "")
    (member : column ∈ headers.map Column.normalize) :
    ∃ header position,
      Column.LastAt (headers.map Column.normalize) column position ∧
      (headers.zipIdx.filter fun entry =>
        Column.Names entry.1 column).getLast? = some (header, position) := by
  induction headers using List.reverseRecOn with
  | nil => cases member
  | append_singleton headers header ih =>
      rw [List.zipIdx_append, List.filter_append, List.map_append,
        List.map_singleton]
      by_cases same : Column.normalize header = column
      · subst same
        have last :=
          Column.LastAt.of_concat (headers.map Column.normalize)
            (Column.normalize header)
        rw [List.length_map] at last
        refine ⟨header, headers.length, last, ?_⟩
        simp [Column.Names, named]
      · rw [List.map_append, List.mem_append] at member
        have earlier : column ∈ headers.map Column.normalize := by
          rcases member with earlier | last
          · exact earlier
          · exact absurd (List.mem_singleton.mp last).symm same
        obtain ⟨other, position, last, found⟩ := ih earlier
        refine ⟨other, position, last.append same, ?_⟩
        simpa [Column.Names, same] using found

theorem byColumn_rowOf (settings : Settings) (headers : List String)
    (cells : List Cell) :
    settings.ByColumn headers cells (settings.rowOf headers cells) where
  keys := keys_rowOf settings headers cells
  distinct := (ColumnMap.canonical_ofList _).nodup
  values := by
    intro column member
    rw [keys_rowOf, List.mem_eraseDups, List.mem_filter, decide_eq_true_eq]
      at member
    obtain ⟨header, position, last, found⟩ := exists_lastAt member.2 member.1
    have held : (settings.rowOf headers cells).get? column =
        some (settings.readCell column (cells.getD position .blank)) := by
      rw [get?_rowOf, found, Option.map_some]
    refine ⟨position, last, ?_, ?_⟩
    · intro marked
      rw [held, readCell, if_pos (isDateColumn_iff.mpr marked)]
    · intro unmarked
      rw [held, readCell, if_neg (mt isDateColumn_iff.mp unmarked)]

end Settings

/-- The same cells with blank ones added at the end, up to a width. -/
structure Sheet.Padded (width : Nat) (cells padded : List Cell) : Prop where
  added : ∃ count, padded = cells ++ List.replicate count .blank
  fits : padded.length ≤ width

theorem Sheet.Padded.getD_eq {width : Nat} {cells padded : List Cell}
    (same : Padded width cells padded) (position : Nat) :
    padded.getD position .blank = cells.getD position .blank := by
  obtain ⟨count, rfl⟩ := same.added
  rw [List.getD_eq_getElem?_getD, List.getD_eq_getElem?_getD]
  by_cases within : position < cells.length
  · rw [List.getElem?_append_left within]
  · have beyond := Nat.le_of_not_lt within
    rw [List.getElem?_append_right beyond, List.getElem?_eq_none beyond,
      List.getElem?_replicate]
    split <;> rfl

/-- The same sheet but for the spelling of its headers and for blank cells at
the end of its rows. -/
structure Sheet.SameByColumn (sheet other : Sheet) : Prop where
  headers : other.headers.map Column.normalize =
    sheet.headers.map Column.normalize
  rows : List.Forall₂ (Padded sheet.headers.length) sheet.rows other.rows

theorem Sheet.length_le_of_padded {width : Nat} {rows padded : List (List Cell)}
    (same : List.Forall₂ (Padded width) rows padded) :
    ∀ cells ∈ padded, cells.length ≤ width := by
  induction same with
  | nil => exact fun _ member => nomatch member
  | cons here _ ih => exact List.forall_mem_cons.mpr ⟨here.fits, ih⟩

theorem Sheet.SameByColumn.fits {sheet other : Sheet}
    (same : sheet.SameByColumn other) : other.Fits := by
  have width : other.headers.length = sheet.headers.length := by
    simpa using congrArg List.length same.headers
  rw [Fits, width]
  exact length_le_of_padded same.rows

namespace Settings

variable {settings : Settings} {sheet other : Sheet}

theorem rowOf_eq {headers respelt : List String} {width : Nat}
    {cells padded : List Cell}
    (names : respelt.map Column.normalize = headers.map Column.normalize)
    (same : Sheet.Padded width cells padded) :
    settings.rowOf respelt padded = settings.rowOf headers cells := by
  rw [rowOf, rowOf, names]
  simp only [same.getD_eq]

theorem map_rowOf_eq (same : sheet.SameByColumn other) :
    other.rows.map (settings.rowOf other.headers) =
      sheet.rows.map (settings.rowOf sheet.headers) := by
  rw [← List.forall₂_eq_eq_eq, List.forall₂_map_left_iff,
    List.forall₂_map_right_iff]
  exact same.rows.flip.imp fun _ _ padded => rowOf_eq same.headers padded

/--
The rows of a sheet whose rows fit the headers: one for each row of the sheet
and in their order, each with the cells of its row by column. Neither the
spelling of the headers nor blank cells at the end of a row change them.
-/
theorem rows_byColumn (settings : Settings) (fits : sheet.Fits) :
    ∃ rows, settings.rows sheet = .ok rows ∧
      List.Forall₂ (settings.ByColumn sheet.headers) sheet.rows rows ∧
      ∀ other, sheet.SameByColumn other → settings.rows other = .ok rows := by
  refine ⟨sheet.rows.map (settings.rowOf sheet.headers),
    rows_eq_ok_iff.mpr ⟨fits, rfl⟩, ?_, ?_⟩
  · rw [List.forall₂_map_right_iff, List.forall₂_same]
    exact fun cells _ => byColumn_rowOf settings sheet.headers cells
  · exact fun other same => rows_eq_ok_iff.mpr ⟨same.fits, map_rowOf_eq same⟩

def losses : Sheet :=
  ⟨"Losses", ["Loss Date", "", "Amount", "loss DATE", "Note"],
    [[.number (.ofInt 45000), .text "x", .number (.ofInt 1),
      .number (.ofInt 45001)], []]⟩

theorem rows_byColumn_losses :
    losses.Fits ∧ ∃ rows, ({} : Settings).rows losses = .ok rows ∧
      List.Forall₂ (({} : Settings).ByColumn losses.headers) losses.rows rows ∧
      ({} : Settings).rows { losses with
        headers := ["lossdate", " ", "AMOUNT", "Loss\tdate", "note "]
        rows :=
          losses.rows.map fun cells =>
            cells ++ List.replicate (5 - cells.length) .blank } = .ok rows := by
  have fits : losses.Fits := by
    have widths :
        ∀ cells ∈ losses.rows, cells.length ≤ losses.headers.length := by
      decide
    exact widths
  obtain ⟨rows, read, each, same⟩ := rows_byColumn {} fits
  refine ⟨fits, rows, read, each, same _ ⟨by decide +kernel, ?_⟩⟩
  exact .cons ⟨⟨1, rfl⟩, by decide⟩ (.cons ⟨⟨5, rfl⟩, by decide⟩ .nil)

end Settings

end RowAudit
