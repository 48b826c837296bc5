import RowAudit.Proofs.Condition.Readers
import RowAudit.Proofs.Condition.Tokens

namespace RowAudit.Condition

open Lexer

def separators : List Char :=
  [' ', '\t', '\r', '\n', '|', '&', '=', '!', '<', '>', '+', '-', '*', '/',
    '%', '(', ')']

theorem of_mem_separators {c : Char} (separator : c ∈ separators) :
    Text.isWordChar c = false ∧ c ≠ '\\' := by
  have all :
      separators.all (fun c => !Text.isWordChar c && c != '\\') = true := by
    decide +kernel
  simpa using List.all_eq_true.mp all c separator

theorem mem_separators_of_mem_symbol {op : BinaryOperator} {c : Char}
    (member : c ∈ op.symbol.toList) : c ∈ separators := by
  have all : op.symbol.toList.all (fun c => separators.contains c) = true := by
    cases op <;> decide
  simpa using List.all_eq_true.mp all c member

theorem mem_separators_of_isSpace {c : Char} (space : isSpace c = true) :
    c ∈ separators := by
  simp only [isSpace, Bool.or_eq_true, decide_eq_true_eq] at space
  rcases space with ((rfl | rfl) | rfl) | rfl
  · decide
  · decide
  · decide
  · decide

def EndsSeparated (cs : List Char) : Prop :=
  ∀ c ∈ cs.getLast?, c ∈ separators

theorem EndsSeparated.append {front cs : List Char}
    (separated : ∀ c ∈ cs, c ∈ separators)
    (ends : cs = [] → EndsSeparated front) : EndsSeparated (front ++ cs) := by
  intro c member
  rw [List.getLast?_append] at member
  cases last : cs.getLast? with
  | none =>
      rw [last, Option.none_or] at member
      exact ends (List.getLast?_eq_none_iff.mp last) c member
  | some d =>
      rw [last, Option.some_or] at member
      obtain rfl := Option.some.inj member
      exact separated d (List.mem_of_getLast? last)

/-- `word` stands in `text` with nothing but a separator on either side. -/
def StandsAlone (word text : List Char) : Prop :=
  ∃ before after, text = before ++ word ++ after ∧ EndsSeparated before ∧
    ∀ c ∈ after.head?, c ∈ separators

namespace Lexer

def CutsSeparators (token : Token) (cs after : List Char) : Prop :=
  (∀ e, token ≠ .operand e) ∧
    ∃ symbol, symbol ≠ [] ∧ (∀ c ∈ symbol, c ∈ separators) ∧
      cs = symbol ++ after

theorem CutsSeparators.cons {token : Token} {c : Char} {rest : List Char}
    (other : ∀ e, token ≠ .operand e) (separator : c ∈ separators) :
    CutsSeparators token (c :: rest) rest :=
  ⟨other, [c], List.cons_ne_nil c [],
    List.forall_mem_singleton.mpr separator, rfl⟩

theorem cutsSeparators_of_binaryOperator {cs after : List Char}
    {op : BinaryOperator} (found : binaryOperator? cs = some (op, after)) :
    CutsSeparators (.binary op) cs after := by
  obtain ⟨other, first, same⟩ := Option.map_eq_some_iff.mp found
  obtain ⟨rfl, rfl⟩ := Prod.mk.inj same
  have starts := List.find?_some first
  obtain ⟨rest, rfl⟩ := List.isPrefixOf_iff_prefix.mp starts
  rw [List.drop_left]
  refine ⟨by simp, other.symbol.toList, ?_,
    fun c member => mem_separators_of_mem_symbol member, rfl⟩
  cases other <;> decide

theorem primary?_eq_some {cs after : List Char} {token : Token}
    {next : Expectation} (found : primary? cs = some (token, next, after)) :
    (∃ e, token = .operand e ∧ next = .operator ∧
      operand? cs = some (e, after)) ∨
      CutsSeparators token cs after := by
  simp only [primary?] at found
  split at found
  · next e rest read =>
      cases found
      exact .inl ⟨e, rfl, rfl, read⟩
  · cases found
    exact .inr (.cons (by simp) (by decide))
  · cases found

theorem signed?_eq_some {cs after : List Char} {token : Token}
    {next : Expectation} (found : signed? cs = some (token, next, after)) :
    (∃ e, token = .operand e ∧ next = .operator ∧
      operand? cs = some (e, after)) ∨
      CutsSeparators token cs after := by
  simp only [signed?] at found
  split at found
  · next op rest read =>
      cases found
      rw [unaryOperator?.eq_def] at read
      split at read
      · cases read
        exact .inr (.cons (by simp) (by decide))
      · cases read
        exact .inr (.cons (by simp) (by decide))
      · cases read
  · exact primary?_eq_some found

theorem token?_eq_some {expected next : Expectation} {cs after : List Char}
    {token : Token} (found : token? expected cs = some (token, next, after)) :
    (∃ e, token = .operand e ∧ expected ≠ .operator ∧ next = .operator ∧
      operand? cs = some (e, after)) ∨ CutsSeparators token cs after := by
  have awaited (possible : expected ≠ .operator)
      (cases : (∃ e, token = .operand e ∧ next = .operator ∧
        operand? cs = some (e, after)) ∨
        CutsSeparators token cs after) :
      (∃ e, token = .operand e ∧ expected ≠ .operator ∧ next = .operator ∧
        operand? cs = some (e, after)) ∨ CutsSeparators token cs after := by
    rcases cases with ⟨e, same, onward, read⟩ | cutOff
    · exact .inl ⟨e, same, possible, onward, read⟩
    · exact .inr cutOff
  unfold token? at found
  split at found
  · refine awaited (by decide) ?_
    split at found
    · next e rest chosen =>
        cases found
        refine .inl ⟨e, rfl, rfl, ?_⟩
        rw [operand?, chosen, Option.some_or]
    · exact signed?_eq_some found
  · exact awaited (by decide) (signed?_eq_some found)
  · cases found
    exact .inr (.cons (by simp) (by decide))
  · obtain ⟨⟨op, rest⟩, read, same⟩ := Option.map_eq_some_iff.mp found
    cases same
    exact .inr (cutsSeparators_of_binaryOperator read)

theorem exists_operand?_of_mem_tokens? {expected : Expectation} {cs : List Char}
    {tokens : List Token} (cut : tokens? expected cs = some tokens) {e : Expr}
    (member : .operand e ∈ tokens) :
    ∃ rest after, operand? rest = some (e, after) := by
  fun_induction tokens? expected cs generalizing tokens with
  | case1 cs _ =>
      cases cut
      cases member
  | case2 expected cs _ _ => cases cut
  | case3 expected cs c tail _ _ => cases cut
  | case4 expected cs c tail start token next after found ih =>
      obtain ⟨others, cutOthers, rfl⟩ := Option.map_eq_some_iff.mp cut
      rcases List.mem_cons.mp member with rfl | later
      · rcases token?_eq_some found with
          ⟨operand, same, -, -, read⟩ | ⟨other, -⟩
        · cases same
          exact ⟨_, after, read⟩
        · exact absurd rfl (other e)
      · exact ih cutOthers later

theorem mem_separators_of_tokens?_operator {cs : List Char}
    {tokens : List Token} (cut : tokens? .operator cs = some tokens) :
    ∀ c ∈ cs.head?, c ∈ separators := by
  intro c member
  cases cs with
  | nil => cases member
  | cons d rest =>
      obtain rfl := Option.some.inj member
      by_cases space : isSpace d = true
      · exact mem_separators_of_isSpace space
      · have here : skipSpace (d :: rest) = d :: rest :=
          List.dropWhile_cons_of_neg space
        rw [tokens?_eq, here, if_neg (List.cons_ne_nil d rest)] at cut
        obtain ⟨⟨token, next, after⟩, found, -⟩ :=
          Option.bind_eq_some_iff.mp cut
        rcases token?_eq_some found with
          ⟨e, -, awaited, -⟩ | ⟨-, symbol, nonempty, separated, whole⟩
        · exact absurd rfl awaited
        · cases symbol with
          | nil => exact absurd rfl nonempty
          | cons first symbol =>
              obtain ⟨rfl, -⟩ := List.cons.inj whole
              exact separated d List.mem_cons_self

theorem standsAlone_of_tokens? {expected : Expectation} {cs : List Char}
    {tokens : List Token} (cut : tokens? expected cs = some tokens)
    {front : List Char} (follows : expected ≠ .operator → EndsSeparated front)
    {e : Expr} (member : .operand e ∈ tokens) {name : String}
    (column : name ∈ e.columns) :
    ∃ word, StandsAlone word (front ++ cs) ∧ e = named word ∧
      word.head?.any isNameStart = true ∧ ∀ c ∈ word, isNameChar c = true := by
  -- Each token is cut off behind a front that ends separated, unless an
  -- operator is expected there.
  fun_induction tokens? expected cs generalizing front tokens with
  | case1 cs _ =>
      cases cut
      cases member
  | case2 expected cs _ _ => cases cut
  | case3 expected cs c tail _ _ => cases cut
  | case4 expected cs c tail start token next after found ih =>
      obtain ⟨others, cutOthers, rfl⟩ := Option.map_eq_some_iff.mp cut
      have whole : cs = cs.takeWhile isSpace ++ c :: tail := by
        rw [← start]
        exact List.takeWhile_append_dropWhile.symm
      have spaced : ∀ d ∈ cs.takeWhile isSpace, d ∈ separators := fun d among =>
        mem_separators_of_isSpace (List.mem_takeWhile_imp among)
      have onward {lexeme : List Char} (split : c :: tail = lexeme ++ after) :
          front ++ cs = front ++ cs.takeWhile isSpace ++ lexeme ++ after := by
        rw [List.append_assoc _ lexeme, ← split, List.append_assoc, ← whole]
      rcases token?_eq_some found with
        ⟨operand, rfl, awaited, rfl, read⟩ | ⟨other, symbol, some,
          separated, split⟩
      · rcases List.mem_cons.mp member with same | later
        · cases same
          obtain ⟨word, split, meaning, begins, chars⟩ :=
            name?_eq_some (name?_of_operand read column)
          refine ⟨word, ⟨front ++ cs.takeWhile isSpace, after, onward split, ?_,
            ?_⟩, meaning, begins, chars⟩
          · exact .append spaced fun _ => follows awaited
          · exact mem_separators_of_tokens?_operator cutOthers
        · obtain ⟨lexeme, split⟩ := suffix_operand read
          rw [onward split.symm]
          exact ih cutOthers (fun next => absurd rfl next) later
      · rcases List.mem_cons.mp member with same | later
        · exact absurd same.symm (other e)
        · rw [onward split]
          exact ih cutOthers
            (fun _ => .append separated fun none => absurd none some) later

end Lexer

/-! Case. In a normal form a capital letter stands right behind a backslash, and
no name does. -/

theorem lowerChar_ne_of_isUpper {c : Char} (upper : c.isUpper = true) :
    Text.lowerChar c ≠ [c] := by
  have alphanumeric : isAlphanumeric c = true := by
    rw [isAlphanumeric,
      show c.isAlpha = (c.isUpper || c.isLower) from rfl, upper]
    rfl
  exact Text.forall_ascii
    (p := fun c => c.isUpper = true → Text.lowerChar c ≠ [c])
    (by decide +kernel) c (ascii_of_isAlphanumeric alphanumeric) upper

theorem escaped_of_isUpper {place : Place} {c : Char} (upper : c.isUpper = true)
    (form : place.form c = [c]) : ∃ quote, place = .escaped quote := by
  cases place with
  | outside =>
      rw [Place.form] at form
      split at form
      · cases form
      · exact absurd form (lowerChar_ne_of_isUpper upper)
  | inside quote => exact absurd form (lowerChar_ne_of_isUpper upper)
  | escaped quote => exact ⟨quote, rfl⟩

theorem getLast?_of_through_escaped {cs : List Char} {quote : Char}
    (escaped : Place.through .outside cs = .escaped quote) :
    cs.getLast? = some '\\' := by
  rcases List.eq_nil_or_concat cs with rfl | ⟨front, c, rfl⟩
  · cases escaped
  · rw [List.concat_eq_append, Place.through_append, Place.through_cons,
      Place.through_nil] at escaped
    rw [List.concat_eq_append, List.getLast?_concat]
    cases place : Place.through .outside front with
    | outside =>
        rw [place, Place.after] at escaped
        split at escaped <;> cases escaped
    | inside other =>
        rw [place, Place.after] at escaped
        split at escaped
        · next same => rw [same]
        · split at escaped <;> cases escaped
    | escaped other =>
        rw [place] at escaped
        cases escaped

theorem isUpper_of_standsAlone {word text : List Char}
    (settled : Settled .outside text) (alone : StandsAlone word text)
    (chars : ∀ c ∈ word, isNameChar c = true) :
    ∀ c ∈ word, c.isUpper = false := by
  intro c member
  rw [← Bool.not_eq_true]
  intro upper
  obtain ⟨before, after, rfl, separated, -⟩ := alone
  obtain ⟨front, back, rfl⟩ := List.append_of_mem member
  have split : before ++ (front ++ c :: back) ++ after = (before ++ front) ++
      c :: (back ++ after) := by
    simp
  rw [split, settled_append] at settled
  obtain ⟨quote, escaped⟩ := escaped_of_isUpper upper settled.2.1
  have last := getLast?_of_through_escaped escaped
  rw [List.getLast?_append] at last
  cases lastOfFront : front.getLast? with
  | none =>
      rw [lastOfFront, Option.none_or] at last
      exact (of_mem_separators (separated _ last)).2 rfl
  | some d =>
      rw [lastOfFront, Option.some_or] at last
      obtain rfl := Option.some.inj last
      have nameChar :=
        chars '\\' (List.mem_append_left _ (List.mem_of_getLast? lastOfFront))
      cases nameChar

theorem eq_of_mem_columns_named {word : List Char} {name : String}
    (chars : ∀ c ∈ word, isNameChar c = true)
    (lower : ∀ c ∈ word, c.isUpper = false)
    (column : name ∈ (named word).columns) :
    word = name.toList ∧ name ∉ ["true", "false", "null", "undefined"] := by
  have spelt : Column.normalize (String.ofList word) = String.ofList word := by
    apply normalize_of_isNameChar
    · rwa [String.toList_ofList]
    · rwa [String.toList_ofList]
  rw [named, spelt] at column
  split at column
  · cases column
  · next notTrue =>
      split at column
      · cases column
      · next notFalse =>
          split at column
          · cases column
          · next notNull =>
              obtain rfl := List.mem_singleton.mp column
              refine ⟨String.toList_ofList.symm, ?_⟩
              intro literal
              simp only [List.mem_cons, List.not_mem_nil, or_false,
                ← String.toList_inj, String.toList_ofList] at literal
              rcases literal with same | same | same | same
              · exact notTrue same
              · exact notFalse same
              · exact notNull (.inl same)
              · exact notNull (.inr same)

/-- A column of a condition is a name, and stands alone in the normal form of
the condition. -/
theorem standsAlone_of_mem_columns {text name : String} {e : Expr}
    (parsed : Expr.parse? (normalize text) = some e)
    (column : name ∈ e.columns) :
    IsName name ∧ StandsAlone name.toList (normalize text).toList := by
  obtain ⟨tokens, cut, operand, member, column⟩ :=
    Expr.exists_tokens_of_mem_columns parsed column
  have front : Expectation.operand ≠ .operator → EndsSeparated [] :=
    fun _ _ last => nomatch last
  obtain ⟨word, alone, rfl, start, chars⟩ :=
    standsAlone_of_tokens? cut front member column
  rw [List.nil_append] at alone
  have lower := isUpper_of_standsAlone (settled_normalize text) alone chars
  obtain ⟨rfl, notLiteral⟩ := eq_of_mem_columns_named chars lower column
  exact ⟨⟨start, chars, lower, notLiteral⟩, alone⟩

end RowAudit.Condition
