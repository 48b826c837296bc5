import RowAudit.Proofs.Condition.Escape
import RowAudit.Proofs.Condition.Name
import RowAudit.Proofs.Double.Numeral

namespace RowAudit.Condition.Lexer

open Numeral (not_sign_of_isDigit takeWhile_isDigit_point
  dropWhile_isDigit_point)
open Text (takeWhile_append_of_stops dropWhile_append_of_stops)

/-- What may follow an operand that is written out: no further choice, and
nothing that could belong to it. -/
structure Ends (rest : List Char) : Prop where
  noPipe : afterPipe? rest = none
  head : ∀ c ∈ rest.head?, c = ' ' ∨ c = ')'

namespace Ends

variable {rest : List Char} {p : Char → Bool}

theorem stops (ends : Ends rest) (space : p ' ' = false)
    (closing : p ')' = false) : ∀ c ∈ rest.head?, p c = false := by
  intro c first
  rcases ends.head c first with rfl | rfl
  · exact space
  · exact closing

theorem nil : Ends [] :=
  ⟨rfl, fun _ member => nomatch member⟩

theorem closing (rest : List Char) : Ends (')' :: rest) :=
  ⟨rfl, fun _ member => .inr (Option.some.inj member).symm⟩

end Ends

/-! Choices. -/

theorem afterPipe?_cons {c : Char} {rest : List Char}
    (notSpace : isSpace c = false) (notPipe : c ≠ '|') :
    afterPipe? (c :: rest) = none := by
  have here : skipSpace (c :: rest) = c :: rest :=
    List.dropWhile_cons_of_neg (by simp [notSpace])
  rw [afterPipe?, here]
  split
  · next same => exact absurd (List.cons.inj same).1 notPipe
  · rfl

theorem moreChoices_of_noPipe {cs : List Char} (noPipe : afterPipe? cs = none) :
    moreChoices cs = ([], cs) := by
  rw [moreChoices]
  split
  · rfl
  · next next pipe =>
      exact absurd (noPipe.symm.trans pipe) (Option.some_ne_none next).symm

def BacksOff (cs : List Char) : Prop :=
  afterPipe? (cs.dropWhile isChoiceChar) = none

namespace BacksOff

variable {c : Char} {cs rest : List Char}

theorem cons_of_isChoiceChar (choiceChar : isChoiceChar c = true)
    (backsOff : BacksOff cs) : BacksOff (c :: cs) := by
  rw [BacksOff, List.dropWhile_cons_of_pos choiceChar]
  exact backsOff

theorem cons_of_not_isChoiceChar (other : isChoiceChar c = false)
    (notSpace : isSpace c = false) (notPipe : c ≠ '|') :
    BacksOff (c :: cs) := by
  rw [BacksOff, List.dropWhile_cons_of_neg (by simp [other])]
  exact afterPipe?_cons notSpace notPipe

theorem of_ends (ends : Ends rest) : BacksOff rest := by
  have here : ([] ++ rest).dropWhile isChoiceChar = rest :=
    dropWhile_append_of_stops (List.forall_mem_nil _) (ends.stops rfl rfl)
  rw [List.nil_append] at here
  rw [BacksOff, here]
  exact ends.noPipe

theorem append (chars : ∀ c ∈ cs, isChoiceChar c = true ∨ c = '$')
    (backsOff : BacksOff rest) : BacksOff (cs ++ rest) := by
  induction cs with
  | nil => exact backsOff
  | cons c cs ih =>
      obtain ⟨first, later⟩ := List.forall_mem_cons.mp chars
      rcases first with choiceChar | rfl
      · exact cons_of_isChoiceChar choiceChar (ih later)
      · exact cons_of_not_isChoiceChar rfl rfl (by decide)

theorem choices?_eq_none (backsOff : BacksOff cs)
    (unquoted : quoted? cs = none) : choices? cs = none := by
  have word : choice? cs = none ∨ ∃ first,
      choice? cs = some (first, cs.dropWhile isChoiceChar) := by
    rw [choice?, unquoted]
    by_cases empty : cs.takeWhile isChoiceChar = []
    · exact .inl (if_pos empty)
    · exact .inr ⟨_, if_neg empty⟩
  rcases word with none | ⟨first, word⟩
  · rw [choices?, none]
  · rw [choices?, word]
    simp only [moreChoices_of_noPipe backsOff]

end BacksOff

theorem choices?_eq_none_of_quoted {cs body after : List Char}
    (found : quoted? cs = some (body, after))
    (noPipe : afterPipe? after = none) : choices? cs = none := by
  have choice : choice? cs = some (body, after) := by
    rw [choice?, found]
  rw [choices?, choice]
  simp only [moreChoices_of_noPipe noPipe]

/-! Numerals. -/

theorem splitFraction_of_head {rest : List Char}
    (noPoint : ∀ c ∈ rest.head?, c ≠ '.') :
    splitFraction rest = ([], rest) := by
  rw [splitFraction.eq_def]
  split
  · exact absurd rfl (noPoint '.' rfl)
  · rfl

theorem splitFraction_point {fraction rest : List Char}
    (nonempty : fraction ≠ []) (digits : ∀ c ∈ fraction, c.isDigit = true)
    (stops : ∀ c ∈ rest.head?, c.isDigit = false) :
    splitFraction ('.' :: (fraction ++ rest)) = ('.' :: fraction, rest) := by
  have taken := takeWhile_append_of_stops digits stops
  have dropped := dropWhile_append_of_stops digits stops
  simp only [splitFraction, taken, dropped, if_neg nonempty]

section

variable {negative : Bool} {power : List Char} (nonempty : power ≠ [])
  (digits : ∀ c ∈ power, c.isDigit = true)
include nonempty digits

theorem head_digits (rest : List Char) :
    ∀ c ∈ (power ++ rest).head?, c.isDigit = true := by
  intro c first
  rw [List.head?_append_of_ne_nil _ nonempty] at first
  exact digits c (List.mem_of_mem_head? first)

theorem splitExponent_mark {mark : Char} (isMark : mark = 'e' ∨ mark = 'E')
    {rest : List Char} (stops : ∀ c ∈ rest.head?, c.isDigit = false) :
    splitExponent (mark :: (Double.minus negative ++ power) ++ rest) =
      (mark :: (Double.minus negative ++ power), rest) := by
  have sign : ∀ c ∈ Double.minus negative,
      (decide (c = '+') || decide (c = '-')) = true := by
    cases negative with
    | true => exact List.forall_mem_singleton.mpr rfl
    | false => exact fun c member => nomatch member
  have unsigned : ∀ c ∈ (power ++ rest).head?,
      (decide (c = '+') || decide (c = '-')) = false := by
    intro c first
    obtain ⟨notPlus, notMinus⟩ :=
      not_sign_of_isDigit (head_digits nonempty digits rest c first)
    rw [decide_eq_false notPlus, decide_eq_false notMinus, Bool.or_false]
  have signTaken := takeWhile_append_of_stops sign unsigned
  have signDropped := dropWhile_append_of_stops sign unsigned
  have taken := takeWhile_append_of_stops digits stops
  have dropped := dropWhile_append_of_stops digits stops
  have short : (Double.minus negative).length ≤ 1 := by
    cases negative <;> decide
  rw [List.cons_append, List.append_assoc]
  simp [splitExponent, signTaken, signDropped, taken, dropped, isMark,
    short, nonempty]

end

section

variable {exponent : List Char} {scale : Int}
  (scaled : Numeral.SpellsExponent exponent scale)
include scaled

theorem head_exponent {rest : List Char} (ends : Ends rest) :
    ∀ c ∈ (exponent ++ rest).head?, c.isDigit = false ∧ c ≠ '.' := by
  intro c first
  cases scaled with
  | absent =>
      rcases ends.head c first with rfl | rfl
      · exact ⟨rfl, by decide⟩
      · exact ⟨rfl, by decide⟩
  | present isMark negative nonempty digits =>
      obtain rfl := Option.some.inj first
      rcases isMark with rfl | rfl
      · exact ⟨rfl, by decide⟩
      · exact ⟨rfl, by decide⟩

theorem splitExponent_of_spells {rest : List Char} (ends : Ends rest) :
    splitExponent (exponent ++ rest) = (exponent, rest) := by
  cases scaled with
  | absent =>
      cases rest with
      | nil => rfl
      | cons c rest =>
          rcases ends.head c rfl with rfl | rfl
          · rfl
          · rfl
  | present isMark negative nonempty digits =>
      exact splitExponent_mark nonempty digits isMark (ends.stops rfl rfl)

theorem splitNumeral_of_spells {cs rest : List Char} {n : Numeral}
    (spells : n.Spells cs) (ends : Ends rest) :
    splitNumeral (cs ++ (exponent ++ rest)) = (cs ++ exponent, rest) := by
  have head := head_exponent scaled ends
  have split := splitExponent_of_spells scaled ends
  cases spells with
  | whole nonempty digits =>
      have taken :=
        takeWhile_append_of_stops digits fun c first => (head c first).1
      have dropped :=
        dropWhile_append_of_stops digits fun c first => (head c first).1
      have noFraction := splitFraction_of_head fun c first => (head c first).2
      simp [splitNumeral, taken, dropped, noFraction, split, nonempty]
  | @fraction whole fraction nonempty wholeDigits fractionDigits =>
      have behind :=
        splitFraction_point nonempty fractionDigits fun c first =>
          (head c first).1
      rw [List.append_assoc, List.cons_append]
      simp [splitNumeral, takeWhile_isDigit_point wholeDigits,
        dropWhile_isDigit_point wholeDigits, behind, split]

theorem read?_of_spells_exponent {cs : List Char} {n : Numeral}
    (spells : n.Spells cs) :
    Numeral.read? (cs ++ exponent) = some { n with exponent := scale } := by
  have read := (spells.written scaled .absent).read?_eq
  cases spells <;> exact read

theorem number?_of_spells {cs rest : List Char} {n : Numeral}
    (spells : n.Spells cs) (ends : Ends rest) :
    number? (cs ++ (exponent ++ rest)) =
      some (.literal
        (.number ({ n with exponent := scale } : Numeral).toDouble), rest) := by
  have nonempty : cs ++ exponent ≠ [] :=
    List.append_ne_nil_of_left_ne_nil spells.ne_nil exponent
  simp only [number?, splitNumeral_of_spells scaled spells ends,
    if_neg nonempty, read?_of_spells_exponent scaled spells, Option.map_some]

end

theorem read?_of_spells {cs : List Char} {n : Numeral} (spells : n.Spells cs) :
    Numeral.read? cs = some n := by
  have read := read?_of_spells_exponent .absent spells
  rw [List.append_nil] at read
  rw [read]
  cases spells <;> rfl

theorem number?_eq_none {c : Char} {rest : List Char}
    (notDigit : c.isDigit = false) (notPoint : c ≠ '.') :
    number? (c :: rest) = none := by
  have fraction : splitFraction (c :: rest) = ([], c :: rest) := by
    rw [splitFraction.eq_def]
    split
    · next same => exact absurd (List.cons.inj same).1 notPoint
    · rfl
  have taken : (c :: rest).takeWhile Char.isDigit = [] :=
    List.takeWhile_cons_of_neg (by simp [notDigit])
  have dropped : (c :: rest).dropWhile Char.isDigit = c :: rest :=
    List.dropWhile_cons_of_neg (by simp [notDigit])
  simp [number?, splitNumeral, taken, dropped, fraction]

/-! Literals in quotes. -/

theorem quoteText_eq {text : String} (plain : '\\' ∉ text.toList) :
    quoteText text = '\'' :: (escape '\'' text.toList ++ ['\'']) := by
  have same :
      text.toList.flatMap (fun c => if c = '\'' then ['\\', '\''] else [c]) =
      escape '\'' text.toList := by
    apply List.flatMap_congr
    intro c member
    have notBackslash : c ≠ '\\' := by
      intro same
      exact plain (same ▸ member)
    by_cases quote : c = '\''
    · rw [if_pos quote, if_pos (.inr quote), quote]
    · rw [if_neg quote, if_neg (not_or.mpr ⟨notBackslash, quote⟩)]
  rw [quoteText, same]
  rfl

theorem quoted?_quoteText {text : String} (plain : '\\' ∉ text.toList)
    (rest : List Char) :
    quoted? (quoteText text ++ rest) = some (text.toList, rest) := by
  rw [quoteText_eq plain, List.cons_append, List.append_assoc,
    List.singleton_append]
  exact literalBody?_escape rfl text.toList rest

theorem quoted?_eq_none {c : Char} {rest : List Char}
    (notQuote : isQuote c = false) : quoted? (c :: rest) = none := by
  rw [quoted?, if_neg]
  intro quote
  rw [isQuote, Bool.or_comm, quote] at notQuote
  cases notQuote

/-! Names. -/

theorem name?_append {name rest : List Char}
    (start : name.head?.any isNameStart = true)
    (chars : ∀ c ∈ name, isNameChar c = true)
    (stops : ∀ c ∈ rest.head?, isNameChar c = false) :
    name? (name ++ rest) = some (named name, rest) := by
  have head : (name ++ rest).head?.any isNameStart = true := by
    cases name with
    | nil => cases start
    | cons c name => exact start
  rw [name?, if_pos head, takeWhile_append_of_stops chars stops,
    dropWhile_append_of_stops chars stops]

end RowAudit.Condition.Lexer
