import SyntaxOutline.Proofs.Grammar.ExpressionReads
import SyntaxOutline.Proofs.Grammar.Follows

/-!
# The parsers of expressions follow the grammar

Each parser of expressions follows the language of its nonterminal, whatever the room. The parser
of a chain, which is handed its first operand, follows the repetition that comes behind it; so does
the parser of the indices and fields of a place.

The recursion is that of the parsers: with the same room they call each other in one order only,
and what calls back has opened a level.
-/

namespace SyntaxOutline

open Grammar

open scoped Computability

namespace Grammar

/-- An expression is a chain of the loosest precedence. -/
theorem expr_words : Nonterminal.expr.words = (Nonterminal.joined .bitOr).words :=
  Nonterminal.words_eq _

/-- What may follow the first operand of a chain. -/
def chainWords (level : Level) : Language Token :=
  ((Terminal.operator level).words * (operandOf level).words)∗

instance (level : Level) : Productive (chainWords level) := inferInstanceAs (Productive _∗)

/-- A chain is an operand with any number of operators and operands behind it. -/
theorem joined_words (level : Level) :
    (Nonterminal.joined level).words = (operandOf level).words * chainWords level :=
  Nonterminal.words_eq _

/-- Operators may stand in front of an operand, one before the other. -/
theorem unary_words :
    Nonterminal.unary.words =
      Terminal.unaryOperator.words * Nonterminal.unary.words + Nonterminal.term.words :=
  Nonterminal.words_eq _

/-- The indices and fields of a place. -/
def suffixWords : Language Token :=
  ((Terminal.mark .lbracket).words * Nonterminal.expr.words * (Terminal.mark .rbracket).words +
    (Terminal.mark .dot).words * Terminal.identifier.words)∗

instance : Productive suffixWords := inferInstanceAs (Productive _∗)

/-- A place is a name with any indices and fields behind it. -/
theorem loc_words : Nonterminal.loc.words = Terminal.identifier.words * suffixWords :=
  Nonterminal.words_eq _

/-- The arguments of a call, with the parenthesis that ends them. -/
def argumentWords : Language Token :=
  (Nonterminal.expr.words * ((Terminal.mark .comma).words * Nonterminal.expr.words)∗ + 1) *
    (Terminal.mark .rparen).words

/-- A call is a name with arguments behind it. -/
theorem call_words :
    Nonterminal.call.words =
      Terminal.identifier.words * ((Terminal.mark .lparen).words * argumentWords) := by
  rw [Nonterminal.words_eq, argumentWords]
  simp only [rule, denote_mul, denote_list, denote_nonterminal, denote_mark, denote_identifier,
    mul_assoc]

/-- An assignment is a place, the mark and an expression. -/
theorem assign_words :
    Nonterminal.assign.words =
      Nonterminal.loc.words * ((Terminal.mark .assign).words * Nonterminal.expr.words) := by
  rw [Nonterminal.words_eq]
  simp only [rule, denote_mul, denote_nonterminal, denote_mark, mul_assoc]

/-- The forms of an operand without operators. A call and a place both start with a name. -/
theorem term_words :
    Nonterminal.term.words =
      Terminal.intLiteral.words + Terminal.realLiteral.words + Terminal.stringLiteral.words +
        Terminal.charLiteral.words + (Terminal.keyword .true_).words +
        (Terminal.keyword .false_).words + (Terminal.keyword .null).words +
        (Terminal.keyword .sizeof).words * ((Terminal.mark .lparen).words *
          (Terminal.identifier.words * (Terminal.mark .rparen).words)) +
        (Terminal.mark .lparen).words * (Nonterminal.expr.words * (Terminal.mark .rparen).words) +
        Nonterminal.call.words + Nonterminal.loc.words := by
  rw [Nonterminal.words_eq]
  simp only [rule, denote_mul, denote_add, denote_nonterminal, denote_terminal, denote_keyword,
    denote_mark, denote_identifier, mul_assoc]

end Grammar

namespace Parser

variable {α : Type} {l m : Language Token}

/-! ## Operators -/

/-- An operator of the precedence is taken. -/
theorem operator?_cons {level : Level} {op : BinaryOp} (h : op.level = level) (ts : List Token) :
    operator? level (.mark op.mark :: ts) = .ok (some op, ts) := by
  have hop : BinaryOp.ofMark? op.mark = some op := BinaryOp.ofMark?_eq_some_iff.mpr rfl
  simp only [operator?, hop, if_pos h]

/-- Any other token is left where it is. -/
theorem operator?_cons_of_ne {level : Level} {u : Token}
    (h : ∀ op : BinaryOp, op.level = level → u ≠ .mark op.mark) (ts : List Token) :
    operator? level (u :: ts) = .ok (none, u :: ts) := by
  unfold operator?
  split
  · next n rest heq =>
    obtain ⟨rfl, rfl⟩ := List.cons.inj heq
    split
    · next op hop =>
      have hlevel : op.level ≠ level := fun hl =>
        h op hl (by rw [BinaryOp.ofMark?_eq_some_iff.mp hop])
      rw [if_neg hlevel]
    · rfl
  · rfl

/-- Going on one way behind an operator of a precedence, and another way without one. -/
theorem Follows.operator?_bind {level : Level} {f : Option BinaryOp → Parser α}
    (hsome : ∀ op, (f (some op)).Follows l) (hnone : (f none).Follows m) :
    Follows (operator? level >>= f) ((Terminal.operator level).words * l + m) := by
  have hnone := hnone.mono (le_add_of_right (m := (Terminal.operator level).words * l) le_rfl)
  refine .of_turns hnone rfl fun u => ?_
  by_cases hu : ∃ op : BinaryOp, op.level = level ∧ u = .mark op.mark
  · obtain ⟨op, rfl, rfl⟩ := hu
    exact .token (.operator op) (hsome op) (le_add_of_left le_rfl) fun ts =>
      bind_of_ok (operator?_cons rfl ts)
  · exact .hands hnone fun ts =>
      bind_of_ok (operator?_cons_of_ne (fun op hl he => hu ⟨op, hl, he⟩) ts)

/-- Going on one way behind an operator in front of an operand, and another way without one. -/
theorem Follows.unaryOperator?_bind {f : Option UnaryOp → Parser α}
    (hsome : ∀ op, (f (some op)).Follows l) (hnone : (f none).Follows m) :
    Follows (unaryOperator? >>= f) (Terminal.unaryOperator.words * l + m) := by
  have hnone := hnone.mono (le_add_of_right (m := Terminal.unaryOperator.words * l) le_rfl)
  refine .of_turns hnone rfl fun u => ?_
  by_cases hu : ∃ op : UnaryOp, u = .mark op.mark
  · obtain ⟨op, rfl⟩ := hu
    refine .token (.unaryOperator op) (hsome op) (le_add_of_left le_rfl) fun ts => bind_of_ok ?_
    have hop : UnaryOp.ofMark? op.mark = some op := UnaryOp.ofMark?_eq_some_iff.mpr rfl
    simp only [unaryOperator?, hop]
  · refine .hands hnone fun ts => bind_of_ok ?_
    unfold unaryOperator?
    split
    · next n rest heq =>
      obtain ⟨rfl, rfl⟩ := List.cons.inj heq
      split
      · next op hop => exact absurd ⟨op, by rw [UnaryOp.ofMark?_eq_some_iff.mp hop]⟩ hu
      · rfl
    · rfl

/-- What stands behind the keyword for sizes. -/
theorem sizeofOperand_follows :
    sizeofOperand.Follows ((Terminal.mark .lparen).words *
      (Terminal.identifier.words * (Terminal.mark .rparen).words)) :=
  (Follows.expect .lparen _).bind fun _ =>
    Follows.identifier.bind fun name => (Follows.expect .rparen _).returns fun _ =>
      Expr.sizeof name

/-! ## One level of room after the other -/

/-- What the parsers of expressions follow with a given room. -/
structure FollowsWith (room : Nat) : Prop where
  expression : (expression room).Follows Nonterminal.expr.words
  operand (level : Level) : (operand level room).Follows (operandOf level).words
  chain (level : Level) (left : Expr) : (chain level room left).Follows (chainWords level)
  unary : (unary room).Follows Nonterminal.unary.words
  suffixes (base : Place) : (suffixes room base).Follows suffixWords

section Step

variable {room : Nat}

/-- A level of the grammar follows its rule if its operands and its chains do. -/
theorem binary_follows {level : Level}
    (hoperand : (operand level room).Follows (operandOf level).words)
    (hchain : ∀ left, (chain level room left).Follows (chainWords level)) :
    (binary level room).Follows (Nonterminal.joined level).words := by
  rw [binary, joined_words, chainWords]
  exact hoperand.bind hchain

/-- A full expression opens a level, so it rests on the level of room below. -/
theorem expression_follows_step (prev : ∀ r, room = r + 1 → FollowsWith r) :
    (expression room).Follows Nonterminal.expr.words := by
  cases room with
  | zero =>
    rw [expression]
    exact .fail _
  | succ room =>
    have hprev := prev room rfl
    rw [expression, expr_words]
    exact binary_follows (hprev.operand .bitOr) (hprev.chain .bitOr)

/-- Each operator of a chain opens a level, so the rest of the chain rests on the level of room
below. -/
theorem chain_follows_step (prev : ∀ r, room = r + 1 → FollowsWith r) (level : Level)
    (left : Expr) : (chain level room left).Follows (chainWords level) := by
  -- One operator and its operand in front of a chain make a chain.
  have hle : (Terminal.operator level).words * ((operandOf level).words * chainWords level) + 1 ≤
      chainWords level := by
    rw [← mul_assoc, chainWords]
    exact add_le mul_kstar_le_kstar one_le_kstar
  rw [chain]
  refine (Follows.operator?_bind (fun op => ?_) (.pure left)).mono hle
  cases room with
  | zero => exact .fail _
  | succ room =>
    have hprev := prev room rfl
    exact ((hprev.operand level).bind fun right => hprev.chain level _).keepOpen

/-- Each index and each field opens a level, so the rest of a place rests on the level of room
below. -/
theorem suffixes_follow_step (prev : ∀ r, room = r + 1 → FollowsWith r) (base : Place) :
    (suffixes room base).Follows suffixWords := by
  have hstay : Follows (pure base : Parser Place) suffixWords :=
    (Follows.pure base).mono one_le_kstar
  -- An index or a field in front of more of them.
  have hindex : (Terminal.mark .lbracket).words * (Nonterminal.expr.words *
      ((Terminal.mark .rbracket).words * suffixWords)) ≤ suffixWords := by
    rw [← mul_assoc, ← mul_assoc]
    refine le_trans (mul_le_mul_left ?_ suffixWords) mul_kstar_le_kstar
    exact le_add_of_left le_rfl
  have hfield : (Terminal.mark .dot).words * (Terminal.identifier.words * suffixWords) ≤
      suffixWords := by
    rw [← mul_assoc]
    refine le_trans (mul_le_mul_left ?_ suffixWords) mul_kstar_le_kstar
    exact le_add_of_right le_rfl
  refine .of_turns hstay (by simp [suffixes, pure, StateT.pure, Except.pure]) fun u => ?_
  by_cases hbracket : u = .mark .lbracket
  · subst hbracket
    cases room with
    | zero => exact .hands (.fail .nestingTooDeep) fun ts => by rw [suffixes]
    | succ room =>
      have hprev := prev room rfl
      refine .token (.mark .lbracket) (Follows.keepOpen ?_) hindex fun ts => by rw [suffixes]
      exact hprev.expression.bind fun index => (Follows.expect .rbracket _).bind fun _ =>
        hprev.suffixes _
  by_cases hdot : u = .mark .dot
  · subst hdot
    cases room with
    | zero => exact .hands (.fail .nestingTooDeep) fun ts => by rw [suffixes]
    | succ room =>
      refine .token (.mark .dot) (Follows.keepOpen ?_) hfield fun ts => by rw [suffixes]
      exact Follows.identifier.bind fun name => (prev room rfl).suffixes _
  · refine .hands hstay fun ts => ?_
    rw [suffixes]
    · rfl
    · exact fun rest h => hbracket (List.cons.inj h).1
    · exact fun rest h => hdot (List.cons.inj h).1

/-- What stands in parentheses, with the parenthesis that closes it. -/
theorem bounded_follows (hexpr : (expression room).Follows Nonterminal.expr.words) :
    (bounded room).Follows (Nonterminal.expr.words * (Terminal.mark .rparen).words) := by
  rw [bounded]
  exact hexpr.bind fun inner => (Follows.expect .rparen _).returns fun _ => Expr.bounded inner

/-- The arguments of a call, with the parenthesis that closes them. -/
theorem arguments_follow (hexpr : (expression room).Follows Nonterminal.expr.words) :
    (arguments room).Follows argumentWords := by
  rw [arguments, argumentWords]
  exact (hexpr.separatedUntil .rparen).bind fun args =>
    (Follows.expect .rparen _).returns fun _ => args

/-- An operator in front of an operand opens a level for it. -/
theorem unary_follows_step (prev : ∀ r, room = r + 1 → FollowsWith r)
    (hterm : (term room).Follows Nonterminal.term.words) :
    (unary room).Follows Nonterminal.unary.words := by
  rw [unary, unary_words]
  refine .unaryOperator?_bind (fun op => ?_) hterm
  cases room with
  | zero => exact .fail _
  | succ room => exact (prev room rfl).unary.returns (Expr.unary op)

/-- From the tightest level on, an operand is a chain of the next tighter level. -/
theorem operand_follows_step
    (hchain : ∀ level left, (chain level room left).Follows (chainWords level))
    (hunary : (unary room).Follows Nonterminal.unary.words) (level : Level) :
    (operand level room).Follows (operandOf level).words := by
  cases h : level.tighter? with
  | none =>
    rw [operand_eq_unary h, operandOf, h]
    exact hunary
  | some tighter =>
    have hlt := Level.rank_lt_of_tighter? h
    rw [operand_eq_binary h, operandOf, h]
    exact binary_follows (operand_follows_step hchain hunary tighter) (hchain tighter)
termination_by level.rank

/-- Behind an identifier, a parenthesis tells a call from a place. -/
theorem term_ident (name : String) (ts : List Token) :
    term room (.ident name :: ts) =
      (accept .lparen >>= fun call =>
        if call then Expr.call name <$> arguments room
        else Expr.place <$> suffixes room (.var name)) ts := by
  cases ts with
  | nil =>
    rw [term]
    · rfl
    · simp
  | cons u ts =>
    by_cases hu : u = .mark .lparen
    · rw [hu, term, bind_of_ok (accept_cons_self .lparen ts)]
      rfl
    · rw [term, bind_of_ok (accept_cons_of_ne hu ts)]
      · rfl
      · exact fun rest h => hu (List.cons.inj h).1

/-- Operands without operators. Only the token behind a name tells a call from a place. -/
theorem term_follows (hexpr : (expression room).Follows Nonterminal.expr.words)
    (hsuffixes : ∀ base, (suffixes room base).Follows suffixWords) :
    (term room).Follows Nonterminal.term.words := by
  have hfail : Follows (fail .missingExpression : Parser Expr) Nonterminal.term.words := .fail _
  refine .of_turns hfail (by simp [term]) fun u => ?_
  -- The first token decides; each case is one alternative of the rule.
  cases u with
  | intLit text =>
    refine .single (.int ⟨text⟩) (.intLiteral text) ?_ fun ts => by rw [term]
    exact le_of_mem fun w hw => by simp only [term_words, Language.mem_add, hw, true_or]
  | realLit text =>
    refine .single (.real ⟨text⟩) (.realLiteral text) ?_ fun ts => by rw [term]
    exact le_of_mem fun w hw => by simp only [term_words, Language.mem_add, hw, true_or, or_true]
  | stringLit text =>
    refine .single (.string text) (.stringLiteral text) ?_ fun ts => by rw [term]
    exact le_of_mem fun w hw => by simp only [term_words, Language.mem_add, hw, true_or, or_true]
  | charLit text =>
    refine .single (.char text) (.charLiteral text) ?_ fun ts => by rw [term]
    exact le_of_mem fun w hw => by simp only [term_words, Language.mem_add, hw, true_or, or_true]
  | ident name =>
    have hnext : Follows (accept .lparen >>= fun call =>
        if call then Expr.call name <$> arguments room
        else Expr.place <$> suffixes room (.var name))
        ((Terminal.mark .lparen).words * argumentWords + suffixWords) :=
      .accept_bind ((arguments_follow hexpr).map _) ((hsuffixes _).map _)
    refine .token (.identifier name) hnext ?_ (term_ident name)
    rw [mul_add, ← call_words, ← loc_words]
    refine le_of_mem fun w hw => ?_
    simp only [term_words, Language.mem_add] at hw ⊢
    rcases hw with hw | hw
    · simp only [hw, true_or, or_true]
    · simp only [hw, or_true]
  | mark n =>
    by_cases hn : n = .lparen
    · subst hn
      refine .token (.mark .lparen) (bounded_follows hexpr) ?_ fun ts => by rw [term]
      exact le_of_mem fun w hw => by
        simp only [term_words, Language.mem_add, hw, true_or, or_true]
    · exact .hands hfail fun ts => by simp [term, hn]
  | keyword k =>
    cases k with
    | true_ =>
      refine .single .true_ (.keyword .true_) ?_ fun ts => by rw [term]
      exact le_of_mem fun w hw => by
        simp only [term_words, Language.mem_add, hw, true_or, or_true]
    | false_ =>
      refine .single .false_ (.keyword .false_) ?_ fun ts => by rw [term]
      exact le_of_mem fun w hw => by
        simp only [term_words, Language.mem_add, hw, true_or, or_true]
    | null =>
      refine .single .null (.keyword .null) ?_ fun ts => by rw [term]
      exact le_of_mem fun w hw => by
        simp only [term_words, Language.mem_add, hw, true_or, or_true]
    | sizeof =>
      refine .token (.keyword .sizeof) sizeofOperand_follows ?_ fun ts => by rw [term]
      exact le_of_mem fun w hw => by
        simp only [term_words, Language.mem_add, hw, true_or, or_true]
    | _ => exact .hands hfail fun ts => by simp [term]

end Step

/-- Whatever the room is, the parsers of expressions follow the grammar. -/
theorem followsWith (room : Nat) : FollowsWith room := by
  have step : ∀ room, (∀ r, room = r + 1 → FollowsWith r) → FollowsWith room := by
    intro room prev
    have hexpr := expression_follows_step prev
    have hsuffixes := suffixes_follow_step prev
    have hunary := unary_follows_step prev (term_follows hexpr hsuffixes)
    have hchain := chain_follows_step prev
    exact ⟨hexpr, operand_follows_step hchain hunary, hchain, hunary, hsuffixes⟩
  induction room with
  | zero => exact step 0 nofun
  | succ room ih =>
    refine step (room + 1) fun r hr => ?_
    cases hr
    exact ih

/-- Places, with any room. -/
theorem place_follows (room : Nat) : (place room).Follows Nonterminal.loc.words := by
  rw [loc_words]
  exact Follows.identifier.bind fun name => (followsWith room).suffixes (.var name)

/-- Assignments, with any room. -/
theorem assignment_follows (room : Nat) :
    (assignment room).Follows Nonterminal.assign.words := by
  rw [assign_words]
  exact (place_follows room).bind fun place => (Follows.expect .assign _).bind fun _ =>
    (followsWith room).expression.returns fun value => Assignment.mk place value

end Parser

end SyntaxOutline
