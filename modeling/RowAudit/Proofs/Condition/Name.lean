import Mathlib.Data.List.Basic
import RowAudit.Condition.Lexer
import RowAudit.Proofs.Condition.Normal
import RowAudit.Text.WholeWord

namespace RowAudit.Condition

open Lexer

/-- A name in lower case that stands for a column and for no literal. -/
structure IsName (name : String) : Prop where
  start : name.toList.head?.any isNameStart = true
  chars : ∀ c ∈ name.toList, isNameChar c = true
  lower : ∀ c ∈ name.toList, c.isUpper = false
  notLiteral : name ∉ ["true", "false", "null", "undefined"]

theorem isName_iff {name : String} :
    (name.toList.head?.any isNameStart = true ∧
      name.toList.all isNameChar = true ∧
      name.toList.all (fun c => !c.isUpper) = true ∧
        name ∉ ["true", "false", "null", "undefined"]) ↔
    IsName name := by
  simp only [List.all_eq_true, Bool.not_eq_true']
  constructor
  · intro checked
    exact ⟨checked.1, checked.2.1, checked.2.2.1, checked.2.2.2⟩
  · intro isName
    exact ⟨isName.start, isName.chars, isName.lower, isName.notLiteral⟩

instance : DecidablePred IsName := fun _ => decidable_of_iff _ isName_iff

theorem ascii_of_isAlphanumeric {c : Char}
    (alphanumeric : isAlphanumeric c = true) : c.toNat < 128 := by
  change ((decide (65 ≤ c.val ∧ c.val ≤ 90) ||
    (decide (97 ≤ c.val) && decide (c.val ≤ 122))) ||
    (decide (48 ≤ c.val) && decide (c.val ≤ 57))) = true at alphanumeric
  simp only [Bool.or_eq_true, Bool.and_eq_true, decide_eq_true_eq,
    UInt32.le_iff_toNat_le]
    at alphanumeric
  have code : c.val.toNat = c.toNat := rfl
  rw [code] at alphanumeric
  simp at alphanumeric
  omega

theorem ascii_of_isNameChar {c : Char} (nameChar : isNameChar c = true) :
    c.toNat < 128 := by
  simp only [isNameChar, Bool.or_eq_true, decide_eq_true_eq] at nameChar
  rcases nameChar with (alphanumeric | rfl) | rfl
  · exact ascii_of_isAlphanumeric alphanumeric
  · decide
  · decide

theorem notBlank_of_isNameChar {c : Char} (nameChar : isNameChar c = true) :
    Text.isBlank c = false :=
  Text.forall_ascii (p := fun c => isNameChar c = true → Text.isBlank c = false)
    (by decide +kernel) c (ascii_of_isNameChar nameChar) nameChar

/-- A dollar may be part of a name, but of no word. -/
theorem isWordChar_of_isNameChar {c : Char} (nameChar : isNameChar c = true) :
    Text.isWordChar c = decide (c ≠ '$') :=
  Text.forall_ascii
    (p := fun c => isNameChar c = true → Text.isWordChar c = decide (c ≠ '$'))
    (by decide +kernel) c (ascii_of_isNameChar nameChar) nameChar

theorem normalize_of_isNameChar {name : String}
    (chars : ∀ c ∈ name.toList, isNameChar c = true)
    (lower : ∀ c ∈ name.toList, c.isUpper = false) :
    Column.normalize name = name := by
  have unblank :
      name.toList.filter (fun c => !Text.isBlank c) = name.toList := by
    rw [List.filter_eq_self]
    intro c member
    rw [notBlank_of_isNameChar (chars c member)]
    rfl
  have lowered : Text.lowerEach name.toList = name.toList :=
    Text.lowerEach_eq_self fun c member =>
      Text.lowerChar_of_ascii (ascii_of_isNameChar (chars c member))
        (lower c member)
  rw [Column.normalize, unblank, lowered, String.ofList_toList]

theorem IsName.named_eq {name : String} (isName : IsName name) :
    named name.toList = .column name := by
  have other : ∀ literal ∈ ["true", "false", "null", "undefined"],
      name.toList ≠ literal.toList := by
    intro literal member same
    rw [String.toList_inj.mp same] at isName
    exact isName.notLiteral member
  simp only [List.forall_mem_cons] at other
  rw [named, if_neg other.1, if_neg other.2.1,
    if_neg (not_or.mpr ⟨other.2.2.1, other.2.2.2.1⟩), String.ofList_toList,
    normalize_of_isNameChar isName.chars isName.lower]

end RowAudit.Condition
