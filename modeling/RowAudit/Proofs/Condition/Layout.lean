import Mathlib.Logic.Relation
import RowAudit.Proofs.Condition.Literal

/-!
The normal form of a condition is canonical. Every text has a layout: characters
outside the literals, literals that are closed, and at the end perhaps one that
is not. The normal form goes through the layout part by part, so white space
that is put in outside the literals leaves no trace, and a literal is kept mark
by mark.
-/

namespace RowAudit.Condition

/-- A part of a condition: a character outside every literal, or a literal with
its quotes. -/
inductive Part where
  | loose (c : Char) (unquoted : isQuote c = false)
  | literal (quote : Char) (proper : isQuote quote = true)
      (marks : List (Mark quote))

namespace Part

def chars : Part → List Char
  | loose c _ => [c]
  | literal quote _ marks => quote :: (Mark.written marks ++ [quote])

def form : Part → List Char
  | loose c _ => if Text.isBlank c then [] else Text.lowerChar c
  | literal quote _ marks => quote :: (marks.flatMap Mark.form ++ [quote])

def written (parts : List Part) : List Char :=
  parts.flatMap chars

def normal (parts : List Part) : List Char :=
  parts.flatMap form

end Part

/-- How a condition ends: outside every literal, or in one that runs to the end,
perhaps on a backslash. -/
inductive Ending where
  | outside
  | inside (quote : Char) (proper : isQuote quote = true)
      (marks : List (Mark quote)) (backslash : Bool)

namespace Ending

def backslashes (present : Bool) : List Char :=
  if present then ['\\'] else []

def chars : Ending → List Char
  | outside => []
  | inside quote _ marks backslash =>
      quote :: (Mark.written marks ++ backslashes backslash)

def form : Ending → List Char
  | outside => []
  | inside quote _ marks backslash =>
      quote :: (marks.flatMap Mark.form ++ backslashes backslash)

end Ending

structure Layout where
  parts : List Part
  ending : Ending

namespace Layout

def chars (layout : Layout) : List Char :=
  Part.written layout.parts ++ layout.ending.chars

def text (layout : Layout) : String :=
  String.ofList layout.chars

def normalText (layout : Layout) : String :=
  String.ofList (Part.normal layout.parts ++ layout.ending.form)

theorem exists_chars_eq (cs : List Char) :
    ∃ layout : Layout, layout.chars = cs := by
  match cs with
  | [] => exact ⟨⟨[], .outside⟩, rfl⟩
  | c :: rest =>
      cases quoted : isQuote c with
      | false =>
          obtain ⟨⟨parts, ending⟩, rfl⟩ := exists_chars_eq rest
          exact ⟨⟨.loose c quoted :: parts, ending⟩, rfl⟩
      | true =>
          obtain ⟨marks, whole | whole | ⟨behind, whole⟩⟩ :=
            Mark.exists_marks c rest
          · refine ⟨⟨[], .inside c quoted marks false⟩, ?_⟩
            rw [whole]
            exact congrArg (c :: ·) (List.append_nil _)
          · refine ⟨⟨[], .inside c quoted marks true⟩, ?_⟩
            rw [whole]
            rfl
          · have shorter : behind.length < rest.length := by
              rw [whole, List.length_append, List.length_cons]
              omega
            obtain ⟨⟨parts, ending⟩, laid⟩ := exists_chars_eq behind
            refine ⟨⟨.literal c quoted marks :: parts, ending⟩, ?_⟩
            rw [whole, ← laid]
            simp [chars, Part.written, Part.chars]
termination_by cs.length
decreasing_by
  · exact Nat.lt_succ_self _
  · exact Nat.lt_succ_of_lt shorter

theorem exists_text_eq (text : String) :
    ∃ layout : Layout, layout.text = text := by
  obtain ⟨layout, whole⟩ := exists_chars_eq text.toList
  exact ⟨layout, by rw [Layout.text, whole, String.ofList_toList]⟩

end Layout

variable {quote : Char}

theorem normalizeFrom_outside_quote (proper : isQuote quote = true)
    (rest : List Char) :
    normalizeFrom .outside (quote :: rest) =
      quote :: normalizeFrom (.inside quote) rest := by
  rw [normalizeFrom_cons, Place.form, isBlank_quote proper,
    if_neg Bool.false_ne_true, lowerChar_quote proper, Place.after,
    if_pos proper]
  rfl

theorem normalizeFrom_inside_quote (proper : isQuote quote = true)
    (rest : List Char) :
    normalizeFrom (.inside quote) (quote :: rest) =
      quote :: normalizeFrom .outside rest := by
  rw [normalizeFrom_cons, Place.form, lowerChar_quote proper, Place.after,
    if_neg (ne_backslash_of_isQuote proper), if_pos rfl]
  rfl

theorem Part.normalizeFrom_chars (part : Part) (rest : List Char) :
    normalizeFrom .outside (part.chars ++ rest) =
      part.form ++ normalizeFrom .outside rest := by
  cases part with
  | loose c unquoted =>
      rw [chars, List.singleton_append, normalizeFrom_cons, Place.after,
        unquoted, if_neg Bool.false_ne_true]
      rfl
  | literal quote proper marks =>
      rw [chars, form, List.cons_append, List.append_assoc,
        normalizeFrom_outside_quote proper, normalizeFrom_written,
        List.singleton_append, normalizeFrom_inside_quote proper,
        List.cons_append, List.append_assoc]
      rfl

/-- Behind parts that are closed, the normal form begins anew. -/
theorem Part.normalizeFrom_written (parts : List Part) (rest : List Char) :
    normalizeFrom .outside (written parts ++ rest) =
      normal parts ++ normalizeFrom .outside rest := by
  induction parts with
  | nil => rfl
  | cons part parts ih =>
      rw [written, List.flatMap_cons, List.append_assoc, normalizeFrom_chars,
        normal, List.flatMap_cons, List.append_assoc]
      exact congrArg (part.form ++ ·) ih

theorem Ending.normalizeFrom_chars (ending : Ending) :
    normalizeFrom .outside ending.chars = ending.form := by
  cases ending with
  | outside => rfl
  | inside quote proper marks backslash =>
      rw [chars, form, normalizeFrom_outside_quote proper,
        Condition.normalizeFrom_written]
      cases backslash <;> rfl

theorem normalize_layout (layout : Layout) :
    normalize layout.text = layout.normalText := by
  rw [normalize, Layout.text, String.toList_ofList, Layout.chars,
    Part.normalizeFrom_written, Ending.normalizeFrom_chars, Layout.normalText]

/-- A character of white space put in where every literal before it is
closed. -/
inductive Spacing : String → String → Prop where
  | insert (front : List Part) (c : Char) (blank : Text.isBlank c = true)
      (rest : List Char) :
      Spacing (String.ofList (Part.written front ++ rest))
        (String.ofList (Part.written front ++ c :: rest))

/-- Whether two texts differ only by white space put in or taken out outside
their literals. -/
def Respaced : String → String → Prop :=
  Relation.EqvGen Spacing

theorem normalizeFrom_outside_blank {c : Char} (blank : Text.isBlank c = true)
    (rest : List Char) :
    normalizeFrom .outside (c :: rest) = normalizeFrom .outside rest := by
  have unquoted : isQuote c ≠ true := by
    intro quote
    rw [isBlank_quote quote] at blank
    cases blank
  rw [normalizeFrom_cons, Place.form, if_pos blank, Place.after,
    if_neg unquoted]
  rfl

theorem normalize_eq_of_spacing {left right : String}
    (spacing : Spacing left right) : normalize left = normalize right := by
  obtain ⟨front, c, blank, rest⟩ := spacing
  rw [normalize, normalize, String.toList_ofList, String.toList_ofList,
    Part.normalizeFrom_written, Part.normalizeFrom_written,
    normalizeFrom_outside_blank blank]

theorem normalize_eq_of_respaced {left right : String}
    (respaced : Respaced left right) : normalize left = normalize right := by
  induction respaced with
  | rel left right spacing => exact normalize_eq_of_spacing spacing
  | refl text => rfl
  | symm left right _ ih => exact ih.symm
  | trans left middle right _ _ first second => exact first.trans second

/--
A normal form is its own normal form, and white space outside the literals makes
no difference to it. Every text has a layout, of which the literals are kept:
their quotes, and their marks in their order, in lower case but for what stands
behind a backslash.
-/
theorem normalize_canonical :
    (∀ text, normalize (normalize text) = normalize text) ∧
    (∀ left right, Respaced left right → normalize left = normalize right) ∧
    (∀ text, ∃ layout : Layout, layout.text = text) ∧
    ∀ layout : Layout, normalize layout.text = layout.normalText :=
  ⟨fun text => normalize_of_settled (settled_normalize text),
    fun _ _ => normalize_eq_of_respaced,
    Layout.exists_text_eq, normalize_layout⟩

/-- A space that moves by one character, in front of a literal that is left
open. -/
theorem normalize_canonical_moved_space :
    Respaced "A b=='C  D\\N" "Ab =='C  D\\N" ∧
      normalize "A b=='C  D\\N" = normalize "Ab =='C  D\\N" := by
  have taken : Spacing "Ab=='C  D\\N" "A b=='C  D\\N" :=
    .insert [.loose 'A' rfl] ' ' (by decide) "b=='C  D\\N".toList
  have put : Spacing "Ab=='C  D\\N" "Ab =='C  D\\N" :=
    .insert [.loose 'A' rfl, .loose 'b' rfl] ' ' (by decide) "=='C  D\\N".toList
  have moved : Respaced "A b=='C  D\\N" "Ab =='C  D\\N" :=
    .trans _ _ _ (.symm _ _ (.rel _ _ taken)) (.rel _ _ put)
  exact ⟨moved, normalize_canonical.2.1 _ _ moved⟩

example :
    normalize "Path != \"C:\\New  Folder\" && A == 'B" =
      "path!=\"c:\\New  folder\"&&a=='b" := by
  decide +kernel

end RowAudit.Condition
