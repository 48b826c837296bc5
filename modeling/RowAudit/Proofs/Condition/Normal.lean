import RowAudit.Condition.Normal
import RowAudit.Proofs.Text.LowerCase

namespace RowAudit.Condition

def Place.Proper : Place → Prop
  | .outside => True
  | .inside quote => isQuote quote = true
  | .escaped quote => isQuote quote = true

def Place.through (place : Place) (cs : List Char) : Place :=
  cs.foldl Place.after place

@[simp] theorem Place.through_nil (place : Place) : place.through [] = place :=
  rfl

@[simp] theorem Place.through_cons (place : Place) (c : Char)
    (rest : List Char) :
    place.through (c :: rest) = (place.after c).through rest := rfl

@[simp] theorem Place.through_append (place : Place) (left right : List Char) :
    place.through (left ++ right) = (place.through left).through right :=
  List.foldl_append ..

def Settled : Place → List Char → Prop
  | _, [] => True
  | place, c :: rest => place.form c = [c] ∧ Settled (place.after c) rest

theorem settled_append {place : Place} {left right : List Char} :
    Settled place (left ++ right) ↔
      Settled place left ∧ Settled (place.through left) right := by
  induction left generalizing place with
  | nil => simp [Settled]
  | cons c rest ih => simp [Settled, ih, and_assoc]

theorem normalizeFrom_of_settled {place : Place} {cs : List Char}
    (settled : Settled place cs) : normalizeFrom place cs = cs := by
  induction cs generalizing place with
  | nil => exact normalizeFrom_nil place
  | cons c rest ih =>
      rw [normalizeFrom_cons, settled.1, ih settled.2, List.singleton_append]

theorem isQuote_eq_true_iff {c : Char} :
    isQuote c = true ↔ c = '"' ∨ c = '\'' := by
  simp [isQuote]

theorem isQuote_of_high {c : Char} (high : 0x60 < c.toNat) :
    isQuote c = false := by
  rw [← Bool.not_eq_true, isQuote_eq_true_iff]
  intro quote
  rcases quote with rfl | rfl
  · exact absurd high (by decide)
  · exact absurd high (by decide)

theorem lowerChar_quote {c : Char} (quote : isQuote c = true) :
    Text.lowerChar c = [c] := by
  rcases isQuote_eq_true_iff.mp quote with rfl | rfl
  · rfl
  · rfl

theorem Place.Proper.after {place : Place} (proper : place.Proper) (c : Char) :
    (place.after c).Proper := by
  cases place with
  | outside =>
      simp only [Place.after]
      split
      · next quote => exact quote
      · trivial
  | inside quote =>
      simp only [Place.after]
      split
      · exact proper
      · split
        · trivial
        · exact proper
  | escaped quote => exact proper

theorem settled_outside_of_settled {cs : List Char}
    (settled : ∀ d ∈ cs, Text.Settled d) :
    Settled .outside cs ∧ Place.through .outside cs = .outside := by
  induction cs with
  | nil => exact ⟨trivial, rfl⟩
  | cons c rest ih =>
      obtain ⟨first, later⟩ := List.forall_mem_cons.mp settled
      have stays : Place.after .outside c = .outside := by
        rw [Place.after, isQuote_of_high first.high, if_neg Bool.false_ne_true]
      rw [Place.through_cons, stays]
      refine ⟨⟨?_, ?_⟩, (ih later).2⟩
      · rw [Place.form, first.notBlank, if_neg Bool.false_ne_true,
          first.lowerChar_eq]
      · rw [stays]
        exact (ih later).1

theorem settled_inside_of_settled {quote : Char} (proper : isQuote quote = true)
    {cs : List Char} (settled : ∀ d ∈ cs, Text.Settled d) :
    Settled (.inside quote) cs ∧
      Place.through (.inside quote) cs = .inside quote := by
  induction cs with
  | nil => exact ⟨trivial, rfl⟩
  | cons c rest ih =>
      obtain ⟨first, later⟩ := List.forall_mem_cons.mp settled
      have notBackslash : c ≠ '\\' := by
        intro same
        subst same
        exact absurd first.high (by decide)
      have notQuote : c ≠ quote := by
        intro same
        subst same
        rw [isQuote_of_high first.high] at proper
        cases proper
      have stays : Place.after (.inside quote) c = .inside quote := by
        rw [Place.after, if_neg notBackslash, if_neg notQuote]
      rw [Place.through_cons, stays]
      refine ⟨⟨first.lowerChar_eq, ?_⟩, (ih later).2⟩
      rw [stays]
      exact (ih later).1

/-- A character that lower-casing settles opens, closes and escapes nothing
itself. -/
theorem plain_of_settled {c : Char}
    (settled : ∀ d ∈ Text.lowerChar c, Text.Settled d) :
    isQuote c = false ∧ c ≠ '\\' := by
  constructor
  · rw [← Bool.not_eq_true]
    intro quote
    rw [lowerChar_quote quote] at settled
    rw [isQuote_of_high (settled c List.mem_cons_self).high] at quote
    cases quote
  · intro same
    subst same
    exact absurd (settled '\\' List.mem_cons_self).high (by decide)

theorem isBlank_quote {c : Char} (quote : isQuote c = true) :
    Text.isBlank c = false := by
  rcases isQuote_eq_true_iff.mp quote with rfl | rfl
  · decide
  · decide

/-- What a character becomes is settled, and leads on to the place behind the
character. -/
theorem settled_form {place : Place} (proper : place.Proper) (c : Char) :
    Settled place (place.form c) ∧
      place.through (place.form c) = place.after c := by
  cases place with
  | outside =>
      cases blank : Text.isBlank c with
      | true =>
          have notQuote : isQuote c ≠ true := by
            intro quote
            rw [isBlank_quote quote] at blank
            cases blank
          rw [Place.form, if_pos blank, Place.after, if_neg notQuote]
          exact ⟨trivial, rfl⟩
      | false =>
          have form : Place.form .outside c = Text.lowerChar c := by
            rw [Place.form, blank, if_neg Bool.false_ne_true]
          rcases Text.lowerChar_eq_or_settled c with same | settled
          · rw [form, same]
            exact ⟨⟨form.trans same, trivial⟩, rfl⟩
          · have notQuote := (plain_of_settled settled).1
            rw [form, Place.after, notQuote, if_neg Bool.false_ne_true]
            exact settled_outside_of_settled settled
  | inside quote =>
      rcases Text.lowerChar_eq_or_settled c with same | settled
      · rw [Place.form, same]
        exact ⟨⟨same, trivial⟩, rfl⟩
      · obtain ⟨notQuote, notBackslash⟩ := plain_of_settled settled
        have notClosing : c ≠ quote := by
          intro same
          rw [same, proper] at notQuote
          cases notQuote
        rw [Place.form, Place.after, if_neg notBackslash, if_neg notClosing]
        exact settled_inside_of_settled proper settled
  | escaped quote => exact ⟨⟨rfl, trivial⟩, rfl⟩

theorem settled_normalizeFrom {place : Place} (proper : place.Proper)
    (cs : List Char) : Settled place (normalizeFrom place cs) := by
  induction cs generalizing place with
  | nil =>
      rw [normalizeFrom_nil]
      trivial
  | cons c rest ih =>
      obtain ⟨settled, onward⟩ := settled_form proper c
      rw [normalizeFrom_cons, settled_append, onward]
      exact ⟨settled, ih (proper.after c)⟩

theorem settled_normalize (text : String) :
    Settled .outside (normalize text).toList := by
  rw [normalize, String.toList_ofList]
  exact settled_normalizeFrom
    (show Place.outside.Proper from trivial) text.toList

theorem normalize_of_settled {text : String}
    (settled : Settled .outside text.toList) : normalize text = text := by
  rw [normalize, normalizeFrom_of_settled settled, String.ofList_toList]

end RowAudit.Condition
