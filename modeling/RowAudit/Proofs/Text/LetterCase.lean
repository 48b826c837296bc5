import RowAudit.Check.Classification
import RowAudit.Proofs.Text.LowerCase

namespace RowAudit.Text

/-- What disregards the case of ASCII letters disregards it, whatever it makes
of other characters. -/
theorem eq_of_ascii {α : Type} {f : Char → α}
    (ascii : ∀ code < 128, f (Char.ofNat code).toLower = f (Char.ofNat code))
    (c : Char) : f c.toLower = f c := by
  by_cases upper : c.isUpper
  · have bounds : 'A'.val ≤ c.val ∧ c.val ≤ 'Z'.val := of_decide_eq_true upper
    have below : c.toNat ≤ 'Z'.toNat := bounds.2
    exact forall_ascii (p := fun c => f c.toLower = f c) ascii c
      (Nat.lt_of_le_of_lt below (by decide))
  · exact congrArg f (dif_neg fun bounds => upper (decide_eq_true bounds))

theorem lowerChar_toLower (c : Char) : lowerChar c.toLower = lowerChar c :=
  eq_of_ascii (by decide +kernel) c

theorem isBlank_toLower (c : Char) : isBlank c.toLower = isBlank c :=
  eq_of_ascii (by decide +kernel) c

theorem trim_map_toLower (cs : List Char) :
    trim (cs.map Char.toLower) = (trim cs).map Char.toLower := by
  have blank : isBlank ∘ Char.toLower = isBlank := funext isBlank_toLower
  simp only [trim, List.dropWhile_map, ← List.map_reverse, blank]

theorem caseIgnorables_toLower (c : Char) :
    caseIgnorables.holds c.toLower.toNat = caseIgnorables.holds c.toNat :=
  eq_of_ascii (f := fun c => caseIgnorables.holds c.toNat) (by decide +kernel) c

theorem casedLetters_toLower (c : Char) :
    casedLetters.holds c.toLower.toNat = casedLetters.holds c.toNat :=
  eq_of_ascii (f := fun c => casedLetters.holds c.toNat) (by decide +kernel) c

theorem meetsCased_map_toLower (cs : List Char) :
    meetsCased (cs.map Char.toLower) = meetsCased cs := by
  induction cs with
  | nil => rfl
  | cons c rest ih =>
      rw [List.map_cons, meetsCased, meetsCased, caseIgnorables_toLower,
        casedLetters_toLower, ih]

theorem lowerAfter_map_toLower (before cs : List Char) :
    lowerAfter (before.map Char.toLower) (cs.map Char.toLower) =
      lowerAfter before cs := by
  have sigma (c : Char) : decide (c.toLower = 'Σ') = decide (c = 'Σ') :=
    eq_of_ascii (f := fun c => decide (c = 'Σ')) (by decide +kernel) c
  induction cs generalizing before with
  | nil => rfl
  | cons c rest ih =>
      have later := ih (c :: before)
      rw [List.map_cons] at later
      simp only [List.map_cons, lowerAfter, meetsCased_map_toLower,
        lowerChar_toLower, later, decide_eq_decide.mp (sigma c)]

theorem lower_map_toLower (s : String) :
    lower (String.ofList (s.toList.map Char.toLower)) = lower s := by
  rw [lower, lower, String.toList_ofList]
  exact congrArg String.ofList (lowerAfter_map_toLower [] s.toList)

def SameButCase (s t : String) : Prop :=
  s.toList.map Char.toLower = t.toList.map Char.toLower

instance (s t : String) : Decidable (SameButCase s t) :=
  inferInstanceAs (Decidable (_ = _))

namespace SameButCase

variable {s t : String}

theorem refl (s : String) : SameButCase s s :=
  rfl

theorem symm (same : SameButCase s t) : SameButCase t s :=
  Eq.symm same

theorem lower_eq (same : SameButCase s t) : lower s = lower t := by
  rw [← lower_map_toLower s, ← lower_map_toLower t, same]

theorem allBlank_eq (same : SameButCase s t) : allBlank s = allBlank t := by
  have cased (u : String) :
      allBlank u = (u.toList.map Char.toLower).all isBlank := by
    rw [List.all_map]
    exact congrArg (u.toList.all ·) (funext fun c => (isBlank_toLower c).symm)
  rw [cased s, cased t, same]

end SameButCase

end RowAudit.Text

namespace RowAudit.Classification

theorem isCodeChar_toLower (c : Char) : isCodeChar c.toLower = isCodeChar c :=
  Text.eq_of_ascii (by decide +kernel) c

theorem isDigit_toLower (c : Char) : c.toLower.isDigit = c.isDigit :=
  Text.eq_of_ascii (f := Char.isDigit) (by decide +kernel) c

theorem isCode_map_toLower (cs : List Char) :
    isCode (cs.map Char.toLower) = isCode cs := by
  have digits : Char.isDigit ∘ Char.toLower = Char.isDigit :=
    funext isDigit_toLower
  have codes : isCodeChar ∘ Char.toLower = isCodeChar :=
    funext isCodeChar_toLower
  have point (c : Char) : decide (c.toLower = '.') = decide (c = '.') :=
    Text.eq_of_ascii (f := fun c => decide (c = '.')) (by decide +kernel) c
  rw [isCode, isCode, List.dropWhile_map, codes, List.getLast?_map]
  cases cs.dropWhile isCodeChar with
  | nil =>
      exact Option.any_map.trans (congrArg (Option.any · cs.getLast?) digits)
  | cons c fraction =>
      by_cases pointed : c = '.'
      · subst pointed
        simp [digits]
      · have apart : c.toLower ≠ '.' :=
          mt (decide_eq_decide.mp (point c)).mp pointed
        simp [pointed, apart]

theorem isCode_eq {s t : String} (same : Text.SameButCase s t) :
    isCode s.toList = isCode t.toList := by
  rw [← isCode_map_toLower s.toList, ← isCode_map_toLower t.toList, same]

end RowAudit.Classification
