import SyntaxOutline.Proofs.Grammar.ExpressionReads
import SyntaxOutline.Proofs.Grammar.Verdict

/-!
# The tokens of an expression are read back

An expression that keeps to the precedence of its operators is read back from its tokens, if the
levels that it needs fit in the room; if they do not, it is refused for its nesting and for nothing
else. What follows the tokens must not go on with the expression (`Stops`).

The proofs recur over the expression. The parser of a level meets the first operand of a chain
before any of its operators, so for a chain the statement says what is left to do behind it: the
parser of the chain goes on with the expression as its left operand, and with the levels that the
chain's operators have opened gone from the room.
-/

namespace SyntaxOutline

/-- The name that a place starts with. -/
def Place.root : Place → String
  | .var name => name
  | .element base _ => base.root
  | .field base _ => base.root

/-- The tokens of a place behind its name. -/
def Place.suffixTokens : Place → List Token
  | .var _ => []
  | .element base index =>
    base.suffixTokens ++ .mark .lbracket :: (index.tokens ++ [.mark .rbracket])
  | .field base name => base.suffixTokens ++ [.mark .dot, .ident name]

/-- A place is written as its name and its indices and fields in order. -/
theorem Place.tokens_eq (p : Place) : p.tokens = .ident p.root :: p.suffixTokens := by
  cases p with
  | var _ => rfl
  | element base _ =>
    rw [Place.tokens, Place.tokens_eq base]
    rfl
  | field base _ =>
    rw [Place.tokens, Place.tokens_eq base]
    rfl

namespace Parser

/-- Whether the mark can stand behind a whole expression or place. -/
def endsExpression : Mark → Bool
  | .rparen | .rbracket | .semicolon | .comma | .assign => true
  | _ => false

/-- The tokens do not go on with an operand of the level of the given rank: no call, index or field
follows, and no operator of a tighter level. -/
def Stops (rank : Nat) : List Token → Prop
  | .mark m :: _ => m ≠ .lparen ∧ m ≠ .lbracket ∧ m ≠ .dot ∧
      ∀ op, BinaryOp.ofMark? m = some op → rank ≤ op.level.rank
  | _ => True

/-- What stops loose operators stops tighter ones. -/
theorem Stops.mono {rank rank' : Nat} {ts : List Token} (h : Stops rank ts)
    (hr : rank' ≤ rank) : Stops rank' ts := by
  unfold Stops at h ⊢
  split
  · obtain ⟨h₁, h₂, h₃, h₄⟩ := h
    exact ⟨h₁, h₂, h₃, fun op hop => Nat.le_trans hr (h₄ op hop)⟩
  · trivial

/-- An operator stops the chains of tighter precedences. -/
theorem stops_operator (op : BinaryOp) (ts : List Token) :
    Stops op.level.rank (.mark op.mark :: ts) := by
  refine ⟨?_, ?_, ?_, ?_⟩
  iterate 3
    · cases op <;> decide
  · intro op' h
    rw [BinaryOp.ofMark?_eq_some_iff.mpr rfl] at h
    cases h
    exact Nat.le_refl _

/-- A mark that ends expressions stops every chain. -/
theorem stops_mark {m : Mark} (h : endsExpression m = true) (rank : Nat) (ts : List Token) :
    Stops rank (.mark m :: ts) := by
  cases m <;> simp [endsExpression] at h <;> simp [Stops, BinaryOp.ofMark?]

/-! ## Chains -/

/-- An operator of the precedence is taken. -/
theorem verdict_operator (op : BinaryOp) (ts : List Token) :
    (operator? op.level).verdict (.mark op.mark :: ts) = .ok (some op, ts) := by
  have h : BinaryOp.ofMark? op.mark = some op := BinaryOp.ofMark?_eq_some_iff.mpr rfl
  simp [verdict, operator?, h, Except.mapError]

/-- Where a chain has to stop, no operator is taken. -/
theorem verdict_operator_of_stops {level : Level} {ts : List Token}
    (h : Stops (level.rank + 1) ts) : (operator? level).verdict ts = .ok (none, ts) := by
  unfold verdict operator?
  split
  · next m rest =>
    split
    · next op hop =>
      have hrank : level.rank + 1 ≤ op.level.rank := h.2.2.2 op hop
      have hne : op.level ≠ level := by
        rintro rfl
        exact Nat.not_succ_le_self _ hrank
      rw [if_neg hne]
      rfl
    · rfl
  · rfl

/-- A chain ends where it has to stop, with what it has so far. -/
theorem verdict_chain_of_stops {level : Level} {ts : List Token} (h : Stops (level.rank + 1) ts)
    (room : Nat) (left : Expr) : (chain level room left).verdict ts = .ok (left, ts) := by
  rw [chain, verdict_bind, verdict_operator_of_stops h]
  rfl

/-- A chain without room for another level refuses an operator. -/
theorem verdict_chain_full (op : BinaryOp) (left : Expr) (ts : List Token) :
    (chain op.level 0 left).verdict (.mark op.mark :: ts) = .error .nestingTooDeep := by
  rw [chain, verdict_bind, verdict_operator]
  rfl

/-- With room, an operator is taken, and the chain goes on with one level less. -/
theorem verdict_chain_operator (op : BinaryOp) (room : Nat) (left : Expr) (ts : List Token) :
    (chain op.level (room + 1) left).verdict (.mark op.mark :: ts) =
      ((operand op.level room).verdict ts).bind fun r =>
        (chain op.level room (.binary op left r.1)).verdict r.2 := by
  rw [chain, verdict_bind_ok (verdict_operator ..)]
  exact (verdict_keepOpen _ _).trans (verdict_bind _ _ _)

/-! ## From level to level -/

section Level

variable {room need : Nat} {ts rest : List Token} {e : Expr}

/-- A level of the grammar reads an operand and then goes on with its chain. What the operand needs
is not needed behind it. -/
theorem verdict_binary_of_operand {level : Level}
    (h : (operand level room).verdict ts = within need room (.ok (e, rest))) :
    (binary level room).verdict ts = within need room ((chain level room e).verdict rest) := by
  rw [binary, verdict_bind_within h]

/-- What the parser of a level gives, the parsers of the operands of all looser levels give. -/
theorem verdict_operand_of_binary {base : Level}
    (h : (binary base room).verdict ts = within need room (.ok (e, rest))) (level : Level)
    (hlt : base.rank < level.rank) (hstop : Stops level.rank rest) :
    (operand level room).verdict ts = within need room (.ok (e, rest)) := by
  -- From `base` up to the level, one level at a time; at each the chain stops at once.
  obtain ⟨tighter, ht, hrank⟩ := Level.exists_tighter (Nat.zero_lt_of_lt hlt)
  rw [operand_eq_binary ht]
  by_cases hbase : base.rank = tighter.rank
  · rw [← Level.rank_inj hbase]
    exact h
  · have hoperand := verdict_operand_of_binary h tighter (by omega) (hstop.mono (by omega))
    rw [verdict_binary_of_operand hoperand, verdict_chain_of_stops (hrank ▸ hstop)]
termination_by level.rank

/-- What is read without operators is also read as an operand of any precedence, if the next token
stops that. -/
theorem verdict_operand_of_unary
    (h : (unary room).verdict ts = within need room (.ok (e, rest))) (level : Level)
    (hstop : Stops level.rank rest) :
    (operand level room).verdict ts = within need room (.ok (e, rest)) := by
  have htightest : (operand .multiplicative room).verdict ts = within need room (.ok (e, rest)) := by
    rw [operand_eq_unary rfl]
    exact h
  by_cases hlevel : level = .multiplicative
  · rw [hlevel]
    exact htightest
  · have hlt : Level.multiplicative.rank < level.rank := by
      cases level <;> first | exact absurd rfl hlevel | decide
    refine verdict_operand_of_binary ?_ level hlt hstop
    rw [verdict_binary_of_operand htightest, verdict_chain_of_stops (hstop.mono hlt)]

end Level

/-- An expression is read back from its tokens, as an operand of a level that is looser than its
outermost operator and as the first operands of a chain. -/
structure ReadBack (e : Expr) : Prop where
  operand {level : Level} {room : Nat} {rest : List Token} (hl : e.looseness ≤ level.rank)
    (hstop : Stops level.rank rest) :
    (operand level room).verdict (e.tokens ++ rest) = within e.demand room (.ok (e, rest))
  binary {level : Level} {room : Nat} {rest : List Token} (hl : e.looseness ≤ level.rank + 1)
    (hstop : Stops level.rank rest) :
    (binary level room).verdict (e.tokens ++ rest) =
      within e.demand room ((chain level (room - e.chainLength level) e).verdict rest)

namespace ReadBack

variable {e : Expr}

/-- An expression that no operator joins is read back as an operand with operators in front. -/
theorem unary (h : ReadBack e) (hl : e.looseness = 0) {room : Nat} {rest : List Token}
    (hstop : Stops 0 rest) :
    (unary room).verdict (e.tokens ++ rest) = within e.demand room (.ok (e, rest)) := by
  have heq : Parser.operand .multiplicative room = Parser.unary room := operand_eq_unary rfl room
  rw [← heq]
  exact h.operand (Nat.le_of_eq hl) hstop

/-- A full expression is read back if the level that it opens and those that it needs fit. -/
theorem expression (h : ReadBack e) (room : Nat) {m : Mark} (hm : endsExpression m = true)
    (rest : List Token) :
    (expression room).verdict (e.tokens ++ .mark m :: rest) =
      within e.fullDemand room (.ok (e, .mark m :: rest)) := by
  cases room with
  | zero => rw [Parser.expression, verdict_fail, Expr.fullDemand, within_succ_zero]
  | succ room =>
    rw [Parser.expression, h.binary (Expr.looseness_le e) (stops_mark hm _ _),
      verdict_chain_of_stops (stops_mark hm _ _), Expr.fullDemand, Nat.add_comm e.demand,
      Nat.add_comm room, within_add]

/-- What is not joined by an operator is read back wherever the parser of operators in front of an
operand reads it back. -/
theorem of_unary (hl : e.looseness = 0)
    (h : ∀ room rest, Stops 0 rest →
      (Parser.unary room).verdict (e.tokens ++ rest) = within e.demand room (.ok (e, rest))) :
    ReadBack e := by
  have hoperand : ∀ {level room rest}, Stops (Level.rank level) rest →
      (Parser.operand level room).verdict (e.tokens ++ rest) =
        within e.demand room (.ok (e, rest)) := by
    intro level room rest hstop
    exact verdict_operand_of_unary (h room rest (hstop.mono (Nat.zero_le _))) level hstop
  refine ⟨fun _ hstop => hoperand hstop, ?_⟩
  intro level room rest _ hstop
  have hnone : e.chainLength level = 0 := Expr.chainLength_eq_zero (by omega)
  rw [verdict_binary_of_operand (hoperand hstop), hnone, Nat.sub_zero]

/-- The chain that ends with `op` is read back if what stands before `op` and behind it is. -/
theorem chain_end {op : BinaryOp} {left right : Expr} (hleft : ReadBack left)
    (hright : ReadBack right) (hll : left.looseness ≤ op.level.rank + 1)
    (hrl : right.looseness ≤ op.level.rank) {room : Nat} {rest : List Token}
    (hstop : Stops op.level.rank rest) :
    (Parser.binary op.level room).verdict ((Expr.binary op left right).tokens ++ rest) =
      within (Expr.binary op left right).demand room
        ((chain op.level (room - (left.chainLength op.level + 1))
          (.binary op left right)).verdict rest) := by
  rw [Expr.tokens, List.append_assoc, List.cons_append, hleft.binary hll (stops_operator op _),
    Expr.demand]
  -- The operators of `left` have `left.chainLength` levels open, and `op` opens the next.
  refine within_link ?_ ?_
  · intro hfull
    rw [Nat.sub_eq_zero_of_le hfull, verdict_chain_full]
  · rintro free rfl
    have hopen : left.chainLength op.level + 1 + free - left.chainLength op.level = free + 1 := by
      omega
    rw [hopen, verdict_chain_operator, hright.operand hrl hstop, within_bind, ok_bind,
      Nat.add_sub_cancel_left]

/-- A chain with one more operator: the part so far is read back as the first operand, and the
operator and the second operand need one level more than the operators so far. -/
theorem binary_node {op : BinaryOp} {left right : Expr} (hleft : ReadBack left)
    (hright : ReadBack right) (hll : left.looseness ≤ op.level.rank + 1)
    (hrl : right.looseness ≤ op.level.rank) : ReadBack (.binary op left right) := by
  have hoperand : ∀ {level room rest}, op.level.rank < Level.rank level →
      Stops level.rank rest →
      (Parser.operand level room).verdict ((Expr.binary op left right).tokens ++ rest) =
        within (Expr.binary op left right).demand room (.ok (.binary op left right, rest)) := by
    intro level room rest hlt hstop
    refine verdict_operand_of_binary ?_ level hlt hstop
    rw [chain_end hleft hright hll hrl (hstop.mono (by omega)),
      verdict_chain_of_stops (hstop.mono hlt)]
  refine ⟨hoperand, ?_⟩
  intro level room rest hl hstop
  -- In a chain of its own level the node goes on with it; in any other it is the first operand.
  by_cases hown : op.level = level
  · subst hown
    rw [chain_end hleft hright hll hrl hstop, Expr.chainLength, if_pos rfl]
  · have hlt : op.level.rank < level.rank := by
      have hne : op.level.rank ≠ level.rank := fun h => hown (Level.rank_inj h)
      simp only [Expr.looseness] at hl
      omega
    have hnone : (Expr.binary op left right).chainLength level = 0 := Expr.chainLength_eq_zero hlt
    rw [verdict_binary_of_operand (hoperand hlt hstop), hnone, Nat.sub_zero]

end ReadBack

/-! ## Places -/

/-- A place is read back from its name on: behind its tokens, what is left to do is to read more
indices and fields, with the levels gone that its own have opened. -/
def PlaceReadBack (p : Place) : Prop :=
  ∀ room rest, (suffixes room (.var p.root)).verdict (p.suffixTokens ++ rest) =
    within p.demand room ((suffixes (room - p.suffixCount) p).verdict rest)

/-- A place ends where no index and no field follows. -/
theorem verdict_suffixes_of_stops {ts : List Token} (h : Stops 0 ts) (room : Nat) (p : Place) :
    (suffixes room p).verdict ts = .ok (p, ts) := by
  unfold verdict suffixes
  split
  · exact absurd rfl h.2.1
  · exact absurd rfl h.2.2.1
  · rfl

/-- Without room for another level an index or a field is refused. -/
theorem verdict_suffixes_full {m : Mark} (hm : m = .lbracket ∨ m = .dot) (p : Place)
    (ts : List Token) : (suffixes 0 p).verdict (.mark m :: ts) = .error .nestingTooDeep := by
  rcases hm with rfl | rfl
  · rw [verdict, suffixes]
    rfl
  · rw [verdict, suffixes]
    rfl

/-- With room, an index is read and the place goes on with one level less. -/
theorem verdict_suffixes_index (room : Nat) (p : Place) (ts : List Token) :
    (suffixes (room + 1) p).verdict (.mark .lbracket :: ts) =
      (do let index ← expression room
          expect .rbracket .afterIndex
          suffixes room (.element p index) : Parser Place).verdict ts := by
  refine Eq.trans ?_ (verdict_keepOpen _ _)
  rw [verdict, suffixes]
  rfl

/-- With room, a field is read and the place goes on with one level less. -/
theorem verdict_suffixes_field (room : Nat) (p : Place) (ts : List Token) :
    (suffixes (room + 1) p).verdict (.mark .dot :: ts) =
      (do let name ← identifier
          suffixes room (.field p name) : Parser Place).verdict ts := by
  refine Eq.trans ?_ (verdict_keepOpen _ _)
  rw [verdict, suffixes]
  rfl

namespace PlaceReadBack

/-- A name alone is read back. -/
theorem var (name : String) : PlaceReadBack (.var name) := by
  intro room rest
  rw [Place.demand, within_zero]
  rfl

/-- A place with one more index. -/
theorem element {base : Place} {index : Expr} (hbase : PlaceReadBack base)
    (hindex : ReadBack index) : PlaceReadBack (.element base index) := by
  intro room rest
  rw [Place.root, Place.suffixTokens, List.append_assoc, hbase, Place.demand]
  refine within_link ?_ ?_
  · intro hfull
    rw [Nat.sub_eq_zero_of_le hfull, List.cons_append, verdict_suffixes_full (.inl rfl)]
  · rintro free rfl
    have hopen : base.suffixCount + 1 + free - base.suffixCount = free + 1 := by omega
    rw [hopen, List.cons_append, List.append_assoc, verdict_suffixes_index, verdict_bind,
      List.singleton_append, hindex.expression free rfl, within_bind, ok_bind,
      verdict_bind_ok (verdict_expect ..), Place.suffixCount, Nat.add_sub_cancel_left,
      Expr.fullDemand]

/-- A place with one more field. -/
theorem field {base : Place} (hbase : PlaceReadBack base) (name : String) :
    PlaceReadBack (.field base name) := by
  intro room rest
  rw [Place.root, Place.suffixTokens, List.append_assoc, hbase, Place.demand]
  -- A field brings nothing with it that needs room.
  show _ = within (max base.demand (base.suffixCount + 1 + 0)) room _
  refine within_link ?_ ?_
  · intro hfull
    rw [Nat.sub_eq_zero_of_le hfull, List.cons_append, verdict_suffixes_full (.inr rfl)]
  · rintro free rfl
    have hopen : base.suffixCount + 1 + free - base.suffixCount = free + 1 := by omega
    rw [hopen, List.cons_append, verdict_suffixes_field, verdict_bind, List.singleton_append,
      verdict_identifier, ok_bind, within_zero, Place.suffixCount, Nat.add_sub_cancel_left]

/-- A place is read back whole, if the next token does not go on with it. -/
theorem place {p : Place} (h : PlaceReadBack p) (room : Nat) {rest : List Token}
    (hstop : Stops 0 rest) :
    (place room).verdict (p.tokens ++ rest) = within p.demand room (.ok (p, rest)) := by
  rw [Parser.place, Place.tokens_eq, List.cons_append, verdict_bind_ok (verdict_identifier ..), h,
    verdict_suffixes_of_stops hstop]

end PlaceReadBack

/-! ## Operands -/

/-- A place starts with a name and so with no mark. -/
theorem isNext_place (m : Mark) (p : Place) (rest : List Token) :
    isNext m (p.tokens ++ rest) = false := by
  rw [Place.tokens_eq]
  rfl

/-- The tokens behind the name of a place do not make it a call. -/
theorem isNext_suffixTokens : ∀ (p : Place) {rest : List Token}, isNext .lparen rest = false →
    isNext .lparen (p.suffixTokens ++ rest) = false
  | .var _, _, h => h
  | .element base _, _, _ => by
    rw [Place.suffixTokens, List.append_assoc]
    exact isNext_suffixTokens base rfl
  | .field base _, _, _ => by
    rw [Place.suffixTokens, List.append_assoc]
    exact isNext_suffixTokens base rfl

/-- An expression does not start with a mark that can end one. -/
theorem isNext_expression {m : Mark} (hm : endsExpression m = true) :
    ∀ (e : Expr) (rest : List Token), isNext m (e.tokens ++ rest) = false
  | .int _, _ | .real _, _ | .string _, _ | .char _, _ | .true_, _ | .false_, _ | .null, _
  | .sizeof _, _ | .call _ _, _ => rfl
  | .bounded _, _ => by
    cases m <;> simp [endsExpression] at hm <;> rfl
  | .place p, rest => isNext_place m p rest
  | .unary op _, _ => by
    cases m <;> simp [endsExpression] at hm <;> cases op <;> rfl
  | .binary op left right, rest => by
    rw [Expr.tokens, List.append_assoc]
    exact isNext_expression hm left _

/-- Without an operator in front an operand is read at once. -/
theorem verdict_unary_of_not {ts : List Token}
    (h : ∀ m rest, ts = .mark m :: rest → UnaryOp.ofMark? m = none) (room : Nat) :
    (unary room).verdict ts = (term room).verdict ts := by
  have hop : unaryOperator?.verdict ts = .ok (none, ts) := by
    unfold verdict unaryOperator?
    split
    · next m rest => rw [h m rest rfl]; rfl
    · rfl
  rw [unary, verdict_bind, hop]
  rfl

/-- With room, an operator in front is taken and its operand read with one level less. -/
theorem verdict_unary_operator (op : UnaryOp) (room : Nat) (ts : List Token) :
    (unary (room + 1)).verdict (.mark op.mark :: ts) =
      ((unary room).verdict ts).map fun r => (.unary op r.1, r.2) := by
  have hop : unaryOperator?.verdict (.mark op.mark :: ts) = .ok (some op, ts) := by
    cases op <;> rfl
  rw [unary, verdict_bind_ok hop]
  exact (verdict_bind _ _ _)

/-- Without room an operator in front is refused. -/
theorem verdict_unary_full (op : UnaryOp) (ts : List Token) :
    (unary 0).verdict (.mark op.mark :: ts) = .error .nestingTooDeep := by
  have hop : unaryOperator?.verdict (.mark op.mark :: ts) = .ok (some op, ts) := by
    cases op <;> rfl
  rw [unary, verdict_bind, hop]
  rfl

namespace ReadBack

/-- What starts with no operator and is read back as an operand without operators. -/
theorem of_term {e : Expr} (hl : e.looseness = 0)
    (hstart : ∀ m rest rest', e.tokens ++ rest = .mark m :: rest' → UnaryOp.ofMark? m = none)
    (h : ∀ room rest, Stops 0 rest →
      (term room).verdict (e.tokens ++ rest) = within e.demand room (.ok (e, rest))) :
    ReadBack e := by
  refine of_unary hl ?_
  intro room rest hstop
  rw [verdict_unary_of_not fun m rest' => hstart m rest rest', h room rest hstop]

/-- A single token that needs no room. -/
theorem leaf {e : Expr} {t : Token} (ht : e.tokens = [t]) (hl : e.looseness = 0)
    (hd : e.demand = 0) (hmark : ∀ m, t ≠ .mark m)
    (h : ∀ room rest, term room (t :: rest) = .ok (e, rest)) : ReadBack e := by
  refine of_term hl ?_ ?_
  · intro m rest rest' heq
    rw [ht, List.singleton_append, List.cons.injEq] at heq
    exact absurd heq.1 (hmark m)
  · intro room rest _
    rw [ht, hd, within_zero, List.singleton_append, verdict, h]
    rfl

/-- The size of a type. -/
theorem sizeof (name : String) : ReadBack (.sizeof name) := by
  refine of_term rfl nofun ?_
  intro room rest _
  have hterm : (term room).verdict ((Expr.sizeof name).tokens ++ rest) = sizeofOperand.verdict
      (.mark .lparen :: .ident name :: .mark .rparen :: rest) := by
    rw [verdict, Expr.tokens]
    simp only [List.cons_append, List.nil_append, term]
    rfl
  rw [hterm, sizeofOperand]
  simp [Expr.demand]

/-- Parentheses make a full expression an operand. -/
theorem bounded {inner : Expr} (h : ReadBack inner) : ReadBack (.bounded inner) := by
  refine of_term rfl ?_ ?_
  · intro m rest rest' heq
    rw [Expr.tokens, List.cons_append, List.cons.injEq, Token.mark.injEq] at heq
    rw [← heq.1]
    rfl
  · intro room rest _
    have hterm : (term room).verdict ((Expr.bounded inner).tokens ++ rest) =
        (Parser.bounded room).verdict (inner.tokens ++ .mark .rparen :: rest) := by
      rw [verdict, Expr.tokens]
      simp only [List.cons_append, List.append_assoc, List.nil_append, term]
      rfl
    rw [hterm, Parser.bounded, verdict_bind_within (h.expression room rfl ..),
      verdict_bind_ok (verdict_expect ..), verdict_pure]
    rfl

/-- An operator in front of an operand that no operator joins. -/
theorem unary_node {op : UnaryOp} {operand : Expr} (h : ReadBack operand)
    (hl : operand.looseness = 0) : ReadBack (.unary op operand) := by
  refine of_unary rfl ?_
  intro room rest hstop
  rw [Expr.tokens, List.cons_append, Expr.demand]
  cases room with
  | zero => rw [verdict_unary_full, within_succ_zero]
  | succ room =>
    rw [verdict_unary_operator, h.unary hl hstop, within_map, ok_map, Nat.add_comm operand.demand,
      Nat.add_comm room, within_add]

/-- Arguments are read back one after the other; the most that one of them needs is what all
need. -/
theorem arguments {es : List Expr} (h : ∀ e ∈ es, ReadBack e) (room : Nat) (rest : List Token) :
    (arguments room).verdict (Expr.tokensList es ++ .mark .rparen :: rest) =
      within (Expr.demandArguments es) room (.ok (es, rest)) := by
  have hlist : (separatedUntil .rparen (Parser.expression room)).verdict
      (separatedBy (.mark .comma) Expr.tokens es ++ .mark .rparen :: rest) =
      within (largest Expr.fullDemand es) room (.ok (es, .mark .rparen :: rest)) := by
    refine verdict_separatedUntil (by nofun) es rest ?_ ?_
    · intro e _ mid
      exact isNext_expression rfl e mid
    · intro e he n mid hn
      refine (h e he).expression room ?_ mid
      rcases hn with rfl | rfl <;> rfl
  rw [Parser.arguments, Expr.tokensList_eq, verdict_bind_within hlist,
    verdict_bind_ok (verdict_expect ..), verdict_pure, Expr.demandArguments_eq]

/-- A call, whose name alone could be a place. -/
theorem call {name : String} {es : List Expr} (h : ∀ e ∈ es, ReadBack e) :
    ReadBack (.call name es) := by
  refine of_term rfl nofun ?_
  intro room rest _
  have hterm : (term room).verdict ((Expr.call name es).tokens ++ rest) =
      (Expr.call name <$> Parser.arguments room).verdict
        (Expr.tokensList es ++ .mark .rparen :: rest) := by
    rw [verdict, Expr.tokens]
    simp only [List.cons_append, List.append_assoc, List.nil_append, term]
    rfl
  rw [hterm, verdict_map, arguments h, within_map, ok_map, Expr.demand]

/-- A place used as a value. -/
theorem place {p : Place} (h : PlaceReadBack p) : ReadBack (.place p) := by
  refine of_term rfl ?_ ?_
  · intro m rest rest' heq
    rw [Expr.tokens, Place.tokens_eq] at heq
    cases heq
  · intro room rest hstop
    -- Two tokens tell a place from a call, and the second may be the first behind the place.
    have hcall : isNext .lparen rest = false := by
      unfold isNext
      split
      · exact decide_eq_false hstop.1
      · rfl
    have hterm : (term room).verdict ((Expr.place p).tokens ++ rest) =
        (Expr.place <$> suffixes room (.var p.root)).verdict (p.suffixTokens ++ rest) := by
      rw [verdict, Expr.tokens, Place.tokens_eq, List.cons_append, term]
      · rfl
      · intro rest' heq
        have hnext := isNext_suffixTokens p hcall
        rw [heq] at hnext
        cases hnext
    rw [hterm, verdict_map, h, verdict_suffixes_of_stops hstop, within_map, ok_map, Expr.demand]

end ReadBack

/-! ## All expressions -/

mutual
/-- Every expression that keeps to the precedence of its operators is read back. -/
theorem readBack : ∀ e : Expr, e.isCanonical = true → ReadBack e
  | .int _, _ | .real _, _ | .string _, _ | .char _, _ | .true_, _ | .false_, _ | .null, _ =>
    .leaf rfl rfl rfl nofun fun _ _ => by rw [term]
  | .sizeof name, _ => .sizeof name
  | .bounded inner, h => by
    rw [Expr.isCanonical] at h
    exact .bounded (readBack inner h)
  | .call _ es, h => by
    rw [Expr.isCanonical] at h
    exact .call (readBack_all es h)
  | .place p, h => by
    rw [Expr.isCanonical] at h
    exact .place (placeReadBack p h)
  | .unary _ operand, h => by
    rw [Expr.isCanonical, Bool.and_eq_true, beq_iff_eq] at h
    exact .unary_node (readBack operand h.2) h.1
  | .binary _ left right, h => by
    simp only [Expr.isCanonical, Bool.and_eq_true, decide_eq_true_eq] at h
    obtain ⟨⟨⟨hll, hrl⟩, hlc⟩, hrc⟩ := h
    exact .binary_node (readBack left hlc) (readBack right hrc) hll hrl

theorem readBack_all : ∀ es : List Expr, Expr.areCanonical es = true → ∀ e ∈ es, ReadBack e
  | [], _ => nofun
  | e :: es, h => by
    rw [Expr.areCanonical, Bool.and_eq_true] at h
    exact List.forall_mem_cons.mpr ⟨readBack e h.1, readBack_all es h.2⟩

/-- Every place whose indices keep to the precedence of their operators is read back. -/
theorem placeReadBack : ∀ p : Place, p.isCanonical = true → PlaceReadBack p
  | .var name, _ => .var name
  | .element base index, h => by
    rw [Place.isCanonical, Bool.and_eq_true] at h
    exact .element (placeReadBack base h.1) (readBack index h.2)
  | .field base name, h => by
    rw [Place.isCanonical] at h
    exact .field (placeReadBack base h) name
end

/-- An assignment is read back from its tokens. -/
theorem verdict_assignment {a : Assignment} (h : a.isCanonical = true) (room : Nat) {m : Mark}
    (hm : endsExpression m = true) (rest : List Token) :
    (assignment room).verdict (a.tokens ++ .mark m :: rest) =
      within a.demand room (.ok (a, .mark m :: rest)) := by
  rw [Assignment.isCanonical, Bool.and_eq_true] at h
  rw [assignment, Assignment.tokens, List.append_assoc, List.cons_append,
    verdict_bind_within ((placeReadBack a.place h.1).place room (stops_mark rfl _ _)),
    verdict_bind_ok (verdict_expect ..),
    verdict_bind_within ((readBack a.value h.2).expression room hm ..), verdict_pure, within_within,
    Assignment.demand]

end Parser

end SyntaxOutline
