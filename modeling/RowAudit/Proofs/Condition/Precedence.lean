import Mathlib.Order.WellFounded
import RowAudit.Proofs.Condition.Standing

/-!
What binds tighter. The tree of a sequence of terms is declared by cutting the
sequence at the last of its loosest operators; the frames that wait while tokens
are put together come to the same tree in one pass.
-/

namespace RowAudit.Condition

open Lexer

/-- The classes of operators between terms; those that bind loosest come
first. -/
def looseness : List (List BinaryOperator) :=
  [[.or], [.and], [.equal, .unequal, .identical, .distinct],
    [.less, .lessEqual, .greater, .greaterEqual], [.add, .subtract],
    [.multiply, .divide, .remainder]]

def BinaryOperator.rank (op : BinaryOperator) : Nat :=
  looseness.findIdx fun operators => operators.contains op

theorem BinaryOperator.rank_eq_level (op : BinaryOperator) :
    op.rank = op.level := by
  cases op <;> rfl

/-- What stands between operators: an operand, or terms with operators between
them in parentheses, and in front of either as many operators as there are. -/
inductive Term where
  | operand (e : Expr)
  | unary (op : UnaryOperator) (term : Term)
  | group (first : Term) (more : List (BinaryOperator × Term))

structure Sequence where
  first : Term
  more : List (BinaryOperator × Term)

mutual
def Term.tokens : Term → List Token
  | .operand e => [.operand e]
  | .unary op term => .unary op :: term.tokens
  | .group first more =>
      .opening :: (first.tokens ++ tokensOfMore more ++ [.closing])

def tokensOfMore : List (BinaryOperator × Term) → List Token
  | [] => []
  | (op, term) :: rest => .binary op :: (term.tokens ++ tokensOfMore rest)
end

def Sequence.tokens (sequence : Sequence) : List Token :=
  sequence.first.tokens ++ tokensOfMore sequence.more

def lastLoosest? (more : List (BinaryOperator × Expr)) :
    Option (Fin more.length) :=
  (List.finRange more.length).reverse.find? fun k =>
    more.all fun other => decide (more[k].1.rank ≤ other.1.rank)

def treeOf (first : Expr) (more : List (BinaryOperator × Expr)) : Expr :=
  match lastLoosest? more with
  | none => first
  | some k =>
      .binary more[k].1 (treeOf first (more.take k))
        (treeOf more[k].2 (more.drop (k + 1)))
termination_by more.length
decreasing_by
  · simp only [List.length_take]
    omega
  · simp only [List.length_drop]
    omega

mutual
/-- Operators in front of a term belong to it alone, and parentheses leave no
trace. -/
def Term.tree : Term → Expr
  | .operand e => e
  | .unary op term => .unary op term.tree
  | .group first more => treeOf first.tree (treesOfMore more)

def treesOfMore : List (BinaryOperator × Term) → List (BinaryOperator × Expr)
  | [] => []
  | (op, term) :: rest => (op, term.tree) :: treesOfMore rest
end

def Sequence.tree (sequence : Sequence) : Expr :=
  treeOf sequence.first.tree (treesOfMore sequence.more)

/-! Where a sequence is cut. -/

theorem rank_of_lastLoosest? {more : List (BinaryOperator × Expr)}
    {k : Fin more.length} (found : lastLoosest? more = some k) :
    (∀ other ∈ more.take k, more[k].1.rank ≤ other.1.rank) ∧
      ∀ other ∈ more.drop (k + 1), more[k].1.rank < other.1.rank := by
  obtain ⟨least, later, earlier, split, passed⟩ :=
    List.find?_eq_some_iff_append.mp found
  have least : ∀ other ∈ more, more[k].1.rank ≤ other.1.rank := by
    simpa using least
  refine ⟨fun other member => least other (List.mem_of_mem_take member), ?_⟩
  intro other member
  obtain ⟨i, bound, rfl⟩ := List.mem_drop_iff_getElem.mp member
  let j : Fin more.length := ⟨k + 1 + i, by omega⟩
  -- The places behind `k` were tried before it, and none of them held a loosest
  -- operator.
  have ordered : (later ++ k :: earlier).Pairwise (· > ·) := by
    rw [← split]
    exact List.pairwise_reverse.mpr (List.pairwise_lt_finRange more.length)
  have among : j ∈ later ++ k :: earlier := by
    rw [← split]
    exact List.mem_reverse.mpr (List.mem_finRange j)
  have tried : j ∈ later := by
    rcases List.mem_append.mp among with tried | untried
    · exact tried
    · have place : (j : Nat) = k + 1 + i := rfl
      rcases List.mem_cons.mp untried with same | before
      · rw [same] at place
        omega
      · have below : (j : Nat) < k :=
          List.rel_of_pairwise_cons (List.pairwise_append.mp ordered).2.1 before
        omega
  obtain ⟨looser, member, below⟩ : ∃ looser ∈ more,
    looser.1.rank < more[j].1.rank := by
    simpa using passed j tried
  exact lt_of_le_of_lt (least looser member) below

theorem eq_nil_of_lastLoosest? {more : List (BinaryOperator × Expr)}
    (none : lastLoosest? more = none) : more = [] := by
  by_contra some
  have : Nonempty (Fin more.length) := ⟨⟨0, List.length_pos_iff.mpr some⟩⟩
  let least := Function.argmin fun k : Fin more.length => more[k].1.rank
  have skipped :=
    List.find?_eq_none.mp none least
      (List.mem_reverse.mpr (List.mem_finRange least))
  apply skipped
  simp only [List.all_eq_true, decide_eq_true_eq]
  intro other member
  obtain ⟨i, bound, rfl⟩ := List.mem_iff_getElem.mp member
  exact Function.argmin_le (fun k : Fin more.length => more[k].1.rank)
    ⟨i, bound⟩

theorem eq_take_append_drop (more : List (BinaryOperator × Expr))
    (k : Fin more.length) :
    more = more.take k ++ more[k] :: more.drop (k + 1) := by
  rw [Fin.getElem_fin, ← List.drop_eq_getElem_cons, List.take_append_drop]

/-! Putting tokens together, seen as taking up operators with the operands
behind them. -/

namespace Assembly

/-- The frames that wait and the operand behind them, once more operators have
come with their operands. -/
def takeUp (frames : List Frame) (e : Expr) :
    List (BinaryOperator × Expr) → List Frame × Expr
  | [] => (frames, e)
  | (op, operand) :: rest =>
      let (waiting, left) := complete op.level frames e
      takeUp (.left left op :: waiting) operand rest

theorem takeUp_append (frames : List Frame) (e : Expr)
    (before after : List (BinaryOperator × Expr)) :
    takeUp frames e (before ++ after) =
      takeUp (takeUp frames e before).1 (takeUp frames e before).2 after := by
  induction before generalizing frames e with
  | nil => rfl
  | cons step before ih => exact ih _ step.2

def Firm (level : Nat) : List Frame → Prop
  | .left _ op :: _ => op.level < level
  | _ => True

variable {level higher : Nat} {frames : List Frame}

theorem Firm.complete_eq (firm : Firm level frames) (e : Expr) :
    complete level frames e = (frames, e) := by
  unfold complete
  split
  · exact if_neg (Nat.not_le_of_lt firm)
  · rfl

theorem Firm.mono (firm : Firm level frames) (le : level ≤ higher) :
    Firm higher frames := by
  unfold Firm at *
  split
  · exact Nat.lt_of_lt_of_le firm le
  · trivial

theorem complete_complete (le : level ≤ higher) (frames : List Frame)
    (e : Expr) :
    complete level (complete higher frames e).1 (complete higher frames e).2 =
      complete level frames e := by
  fun_induction complete higher frames e with
  | case1 l op frames e binds ih =>
      rw [ih, complete.eq_1 level, if_pos (Nat.le_trans le binds)]
  | case2 l op frames e loose => rfl
  | case3 frames e _ => rfl

/-- Where no operator is looser than the level, those taken up are completed to
their tree. -/
theorem complete_takeUp (firm : Firm level frames) (first : Expr)
    {more : List (BinaryOperator × Expr)}
    (tight : ∀ step ∈ more, level ≤ step.1.level) :
    complete level (takeUp frames first more).1 (takeUp frames first more).2 =
      (frames, treeOf first more) := by
  fun_induction treeOf first more generalizing level frames with
  | case1 first more none =>
      obtain rfl := eq_nil_of_lastLoosest? none
      exact firm.complete_eq first
  | case2 first more k found ihBefore ihAfter =>
      obtain ⟨before, after⟩ := rank_of_lastLoosest? found
      simp only [BinaryOperator.rank_eq_level] at before after
      have loosest : level ≤ more[k].1.level :=
        tight more[k] (List.getElem_mem k.isLt)
      have left := ihBefore (firm.mono loosest) before
      -- The cut operator waits alone in front of what binds tighter behind it.
      have waiting : Firm (more[k].1.level + 1)
          (.left (treeOf first (more.take k)) more[k].1 :: frames) :=
            Nat.lt_succ_self _
      have right := ihAfter waiting after
      have whole : takeUp frames first more =
          takeUp (.left (treeOf first (more.take k)) more[k].1 :: frames)
            more[k].2
            (more.drop (k + 1)) := by
        conv => lhs; rw [eq_take_append_drop more k, takeUp_append,
          takeUp, left]
      rw [whole, ← complete_complete (Nat.le_succ_of_le loosest), right,
        complete, if_pos loosest]
      exact firm.complete_eq _

mutual
theorem run_term (term : Term) (frames : List Frame) (rest : List Token) :
    run frames none (term.tokens ++ rest) =
      run (applyUnary frames term.tree).1
        (some (applyUnary frames term.tree).2) rest := by
  cases term with
  | operand e => rfl
  | unary op term => exact run_term term (.unary op :: frames) rest
  | group first more =>
      have closed :=
        complete_takeUp (show Firm 0 (.group :: frames) from trivial) first.tree
        fun step (_ : step ∈ treesOfMore more) => Nat.zero_le step.1.level
      have opened : (Term.group first more).tokens ++ rest =
          .opening :: (first.tokens ++
            (tokensOfMore more ++ .closing :: rest)) := by
        simp [Term.tokens]
      rw [opened, run, run_term first, applyUnary, run_more more, run, closed]
      · rfl
      · intro _ _ same
        cases same

theorem run_more (more : List (BinaryOperator × Term)) (frames : List Frame)
    (e : Expr) (rest : List Token) :
    run frames (some e) (tokensOfMore more ++ rest) =
      run (takeUp frames e (treesOfMore more)).1
        (some (takeUp frames e (treesOfMore more)).2) rest := by
  cases more with
  | nil => rfl
  | cons step more =>
      obtain ⟨op, term⟩ := step
      rw [tokensOfMore, List.cons_append, List.append_assoc, run]
      exact (run_term term _ _).trans (run_more more _ term.tree rest)
end

theorem run_sequence (sequence : Sequence) :
    run [] none sequence.tokens = some sequence.tree := by
  have closed :=
    complete_takeUp (show Firm 0 [] from trivial) sequence.first.tree
    fun step (_ : step ∈ treesOfMore sequence.more) => Nat.zero_le step.1.level
  rw [Sequence.tokens, run_term, applyUnary,
    ← List.append_nil (tokensOfMore sequence.more), run_more, run, closed]
  · rfl
  · intro _ _ same
    cases same

/-! Nothing but a sequence is put together. -/

theorem count_applyUnary (frames : List Frame) (e : Expr) :
    (applyUnary frames e).1.count .group = frames.count .group := by
  fun_induction applyUnary frames e with
  | case1 op frames e ih => rw [ih, List.count_cons_of_ne (by simp)]
  | case2 frames e _ => rfl

theorem count_complete (level : Nat) (frames : List Frame) (e : Expr) :
    (complete level frames e).1.count .group = frames.count .group := by
  fun_induction complete level frames e with
  | case1 l op frames e binds ih => rw [ih, List.count_cons_of_ne (by simp)]
  | case2 l op frames e loose => rfl
  | case3 frames e _ => rfl

/-- What may come behind a term at a depth of open parentheses. -/
inductive Closes : Nat → List Token → Prop
  | last (more : List (BinaryOperator × Term)) : Closes 0 (tokensOfMore more)
  | closing {depth : Nat} {rest : List Token}
      (more : List (BinaryOperator × Term))
      (closes : Closes depth rest) :
      Closes (depth + 1) (tokensOfMore more ++ .closing :: rest)

theorem Closes.cons {depth : Nat} {rest : List Token}
    (closes : Closes depth rest) (op : BinaryOperator) (term : Term) :
    Closes depth (.binary op :: (term.tokens ++ rest)) := by
  cases closes with
  | last more => exact .last ((op, term) :: more)
  | closing more closes =>
      have longer := Closes.closing ((op, term) :: more) closes
      rwa [tokensOfMore, List.cons_append, List.append_assoc] at longer

/-- What the tokens have to be like for the frames that wait and the operand
behind them, if there is one. -/
def Suits (frames : List Frame) (current : Option Expr) (tokens : List Token) :
    Prop :=
  match current with
  | none =>
      ∃ term rest, tokens = Term.tokens term ++ rest ∧
        Closes (frames.count .group) rest
  | some _ => Closes (frames.count .group) tokens

theorem suits_of_run {frames : List Frame} {current : Option Expr}
    {tokens : List Token} {parsed : Expr}
    (assembled : run frames current tokens = some parsed) :
    Suits frames current tokens := by
  fun_induction run frames current tokens with
  | case1 frames e rest waiting whole applied ih =>
      have closes : Closes (waiting.count .group) rest := ih assembled
      have depth := count_applyUnary frames e
      rw [applied] at depth
      rw [depth] at closes
      exact ⟨.operand e, rest, rfl, closes⟩
  | case2 frames op rest ih =>
      obtain ⟨term, behind, rfl, closes⟩ := ih assembled
      rw [List.count_cons_of_ne (by simp)] at closes
      exact ⟨.unary op term, behind, rfl, closes⟩
  | case3 frames rest ih =>
      obtain ⟨first, behind, rfl, closes⟩ := ih assembled
      rw [List.count_cons_self] at closes
      cases closes with
      | closing more closes =>
          exact ⟨.group first more, _, by simp [Term.tokens], closes⟩
  | case4 frames e op rest waiting left completed ih =>
      obtain ⟨term, behind, rfl, closes⟩ := ih assembled
      have depth := count_complete op.level frames e
      rw [completed] at depth
      rw [List.count_cons_of_ne (by simp), depth] at closes
      exact closes.cons op term
  | case5 frames e rest outer inner completed waiting whole applied ih =>
      have closes : Closes (waiting.count .group) rest := ih assembled
      have unary := count_applyUnary outer inner
      have depth := count_complete 0 frames e
      rw [applied] at unary
      rw [completed, List.count_cons_self] at depth
      rw [unary] at closes
      rw [Suits, ← depth]
      exact .closing [] closes
  | case6 frames e rest unopened => cases assembled
  | case7 frames e whole completed =>
      have depth := count_complete 0 frames e
      rw [completed, List.count_nil] at depth
      rw [Suits, ← depth]
      exact .last []
  | case8 frames e unclosed => cases assembled
  | case9 => cases assembled

theorem exists_sequence_of_run {tokens : List Token} {parsed : Expr}
    (assembled : run [] none tokens = some parsed) :
    ∃ sequence : Sequence, tokens = sequence.tokens := by
  obtain ⟨first, rest, rfl, closes⟩ := suits_of_run assembled
  cases closes with
  | last more => exact ⟨⟨first, more⟩, rfl⟩

end Assembly

/-! The operands and operators of a tree. -/

def Expr.inOrder : Expr → List Token
  | .literal value => [.operand (.literal value)]
  | .column name => [.operand (.column name)]
  | .unary op operand => .unary op :: operand.inOrder
  | .binary op left right => left.inOrder ++ .binary op :: right.inOrder

def Token.isParenthesis : Token → Bool
  | .opening | .closing => true
  | _ => false

theorem inOrder_treeOf (first : Expr) (more : List (BinaryOperator × Expr)) :
    (treeOf first more).inOrder =
      first.inOrder ++ more.flatMap fun step =>
        .binary step.1 :: step.2.inOrder := by
  fun_induction treeOf first more with
  | case1 first more none =>
      obtain rfl := eq_nil_of_lastLoosest? none
      exact (List.append_nil _).symm
  | case2 first more k found ihBefore ihAfter =>
      conv => rhs; rw [eq_take_append_drop more k]
      rw [Expr.inOrder, ihBefore, ihAfter, List.flatMap_append,
        List.flatMap_cons]
      simp

def Simple (tokens : List Token) : Prop :=
  ∀ e, .operand e ∈ tokens → e.inOrder = [.operand e]

mutual
theorem inOrder_tree (term : Term) (simple : Simple term.tokens) :
    term.tree.inOrder = term.tokens.filter fun token =>
      !token.isParenthesis := by
  cases term with
  | operand e => exact simple e List.mem_cons_self
  | unary op term =>
      have inner :=
        inOrder_tree term fun e member =>
          simple e (List.mem_cons_of_mem _ member)
      rw [Term.tree, Expr.inOrder, inner]
      rfl
  | group first more =>
      have left :=
        inOrder_tree first fun e member =>
          simple e (by simp [Term.tokens, member])
      have right :=
        inOrder_treesOfMore more fun e member =>
          simple e (by simp [Term.tokens, member])
      rw [Term.tree, inOrder_treeOf, left, right, Term.tokens]
      simp [Token.isParenthesis]

theorem inOrder_treesOfMore (more : List (BinaryOperator × Term))
    (simple : Simple (tokensOfMore more)) :
    (treesOfMore more).flatMap (fun step => .binary step.1 :: step.2.inOrder) =
      (tokensOfMore more).filter fun token => !token.isParenthesis := by
  cases more with
  | nil => rfl
  | cons step more =>
      obtain ⟨op, term⟩ := step
      have here :=
        inOrder_tree term fun e member =>
          simple e (by simp [tokensOfMore, member])
      have later :=
        inOrder_treesOfMore more fun e member =>
          simple e (by simp [tokensOfMore, member])
      rw [treesOfMore, List.flatMap_cons, later, here, tokensOfMore]
      simp [Token.isParenthesis]
end

theorem Sequence.inOrder_tree (sequence : Sequence)
    (simple : Simple sequence.tokens) :
    sequence.tree.inOrder = sequence.tokens.filter fun token =>
      !token.isParenthesis := by
  have left := Condition.inOrder_tree sequence.first fun e member =>
    simple e (List.mem_append_left _ member)
  have right := inOrder_treesOfMore sequence.more fun e member =>
    simple e (List.mem_append_right _ member)
  rw [Sequence.tree, inOrder_treeOf, left, right, Sequence.tokens,
    List.filter_append]

theorem inOrder_named (word : List Char) :
    (named word).inOrder = [.operand (named word)] := by
  unfold named
  split
  · rfl
  · split
    · rfl
    · split <;> rfl

theorem simple_of_tokens? {expected : Expectation} {cs : List Char}
    {tokens : List Token} (cut : tokens? expected cs = some tokens) :
    Simple tokens := by
  intro e member
  obtain ⟨rest, after, read⟩ := exists_operand?_of_mem_tokens? cut member
  rcases operand?_eq_some read with ⟨text, rfl⟩ | ⟨value, rfl⟩ | ⟨word, rfl⟩
  · rfl
  · rfl
  · exact inOrder_named word

theorem Expr.exists_sequence_of_parse? {text : String} {e : Expr}
    (parsed : Expr.parse? text = some e) :
    ∃ sequence : Sequence, tokens? .operand text.toList = some sequence.tokens ∧
      sequence.tree = e := by
  rw [Expr.parse?] at parsed
  split at parsed
  · next tokens cut =>
      obtain ⟨sequence, rfl⟩ := Assembly.exists_sequence_of_run parsed
      rw [Assembly.run_sequence] at parsed
      exact ⟨sequence, cut, Option.some.inj parsed⟩
  · cases parsed

theorem Expr.parse?_of_sequence {text : String} {sequence : Sequence}
    (cut : tokens? .operand text.toList = some sequence.tokens) :
    Expr.parse? text = some sequence.tree := by
  rw [Expr.parse?, cut]
  exact Assembly.run_sequence sequence

theorem Expr.mem_inOrder_of_mem_literals {e : Expr} {value : Value}
    (member : value ∈ e.literals) : .operand (.literal value) ∈ e.inOrder := by
  induction e with
  | literal other =>
      obtain rfl := List.mem_singleton.mp member
      exact List.mem_cons_self
  | column name => cases member
  | unary op operand ih => exact List.mem_cons_of_mem _ (ih member)
  | binary op left right ihLeft ihRight =>
      rcases List.mem_append.mp member with inLeft | inRight
      · exact List.mem_append_left _ (ihLeft inLeft)
      · exact List.mem_append_right _ (List.mem_cons_of_mem _ (ihRight inRight))

theorem Expr.exists_operand?_of_mem_literals {text : String} {e : Expr}
    (parsed : Expr.parse? text = some e) {value : Value}
    (member : value ∈ e.literals) :
    ∃ rest after, operand? rest = some (.literal value, after) := by
  obtain ⟨sequence, cut, rfl⟩ := Expr.exists_sequence_of_parse? parsed
  have ordered := Expr.mem_inOrder_of_mem_literals member
  rw [sequence.inOrder_tree (simple_of_tokens? cut)] at ordered
  exact exists_operand?_of_mem_tokens? cut (List.mem_filter.mp ordered).1

/--
A condition stands for an expression just if its tokens are those of a sequence
of terms with that expression for its tree, and no other way of seeing the
tokens as a sequence gives another tree. The tree has every operand and every
operator of the condition, in their order.
-/
theorem Expr.parse?_eq_some_iff_tree (text : String) :
    (∀ e, Expr.parse? text = some e ↔
      ∃ sequence : Sequence,
        tokens? .operand text.toList = some sequence.tokens ∧
        sequence.tree = e) ∧
    ∀ sequence : Sequence, tokens? .operand text.toList = some sequence.tokens →
      sequence.tree.inOrder = sequence.tokens.filter fun token =>
        !token.isParenthesis := by
  refine ⟨fun e => ⟨?_, ?_⟩,
    fun sequence cut => sequence.inOrder_tree (simple_of_tokens? cut)⟩
  · exact Expr.exists_sequence_of_parse?
  · rintro ⟨sequence, cut, rfl⟩
    exact Expr.parse?_of_sequence cut

/-- The terms of `a-b-c*d>!-x||(e=='p'|'q'&&b)`. -/
def mixed : Sequence where
  first := .operand (.column "a")
  more :=
    [(.subtract, .operand (.column "b")), (.subtract, .operand (.column "c")),
      (.multiply, .operand (.column "d")),
      (.greater, .unary .not (.unary .negate (.operand (.column "x")))),
      (.or, .group (.operand (.column "e"))
        [(.equal, .operand (.literal (.text "p|q"))),
          (.and, .operand (.column "b"))])]

theorem parse?_mixed :
    tokens? .operand "a-b-c*d>!-x||(e=='p'|'q'&&b)".toList = some mixed.tokens ∧
      Expr.parse? "a-b-c*d>!-x||(e=='p'|'q'&&b)" = some
        (.binary .or
          (.binary .greater
            (.binary .subtract (.binary .subtract (.column "a") (.column "b"))
              (.binary .multiply (.column "c") (.column "d")))
            (.unary .not (.unary .negate (.column "x"))))
          (.binary .and (.binary .equal (.column "e") (.literal (.text "p|q")))
            (.column "b"))) ∧
      mixed.tree.inOrder = mixed.tokens.filter fun token =>
        !token.isParenthesis := by
  have cut : tokens? .operand "a-b-c*d>!-x||(e=='p'|'q'&&b)".toList =
      some mixed.tokens := by
    decide +kernel
  obtain ⟨reads, keeps⟩ :=
    Expr.parse?_eq_some_iff_tree "a-b-c*d>!-x||(e=='p'|'q'&&b)"
  exact ⟨cut, (reads _).mpr ⟨mixed, cut, by decide +kernel⟩, keeps mixed cut⟩

end RowAudit.Condition
