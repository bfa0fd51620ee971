import SyntaxOutline.Grammar.Expression
import SyntaxOutline.Proofs.Grammar.Reads
import SyntaxOutline.Proofs.Program.Demand
import SyntaxOutline.Proofs.Program.Precedence

/-!
# What the parsers of expressions give

An expression that a parser gives has the tokens that were taken for it, keeps to the precedence of
its operators, and needs no more levels of nesting than there was room for. The proofs recur as the
parsers do.

A chain is read from its first operand on, so what its parser gives starts with the operand `left`
that it was handed. The levels that the operators of `left` opened are counted by the length of its
chain: with `room` levels left, `room + left.chainLength level` were free where the chain started,
and that sum stays the same from operator to operator. The indices and fields of a place go the
same way.
-/

namespace SyntaxOutline

/-- An operand that is not joined too loosely and does not need too many levels. -/
structure Expr.Fits (rank room : Nat) (e : Expr) : Prop where
  canonical : e.isCanonical = true
  looseness : e.looseness ≤ rank
  demand : e.demand ≤ room

/-- A full expression that does not need too many levels. -/
structure Expr.FitsFull (room : Nat) (e : Expr) : Prop where
  canonical : e.isCanonical = true
  demand : e.fullDemand ≤ room

/-- A place that does not need too many levels. -/
structure Place.Fits (room : Nat) (p : Place) : Prop where
  canonical : p.isCanonical = true
  demand : p.demand ≤ room

/-- An assignment that does not need too many levels. -/
structure Assignment.Fits (room : Nat) (a : Assignment) : Prop where
  canonical : a.isCanonical = true
  demand : a.demand ≤ room

/-- What fits where tighter operators are allowed fits where looser ones are. -/
theorem Expr.Fits.mono {rank rank' room : Nat} {e : Expr} (h : e.Fits rank room)
    (hr : rank ≤ rank') : e.Fits rank' room :=
  ⟨h.canonical, Nat.le_trans h.looseness hr, h.demand⟩

/-- A leaf needs nothing. -/
theorem Expr.Fits.leaf {rank room : Nat} {e : Expr} (hc : e.isCanonical = true)
    (hl : e.looseness = 0) (hd : e.demand = 0) : e.Fits rank room :=
  ⟨hc, by rw [hl]; exact Nat.zero_le _, by rw [hd]; exact Nat.zero_le _⟩

/-- Joining a chain with one more operand keeps the levels that were free where it started. -/
theorem Expr.Fits.binary {op : BinaryOp} {left right : Expr} {level : Level} {room : Nat}
    (hop : op.level = level)
    (hl : left.Fits (level.rank + 1) (room + 1 + left.chainLength level))
    (hr : right.Fits level.rank room) :
    (Expr.binary op left right).Fits (level.rank + 1)
      (room + (Expr.binary op left right).chainLength level) := by
  subst hop
  obtain ⟨hlc, hll, hld⟩ := hl
  obtain ⟨hrc, hrl, hrd⟩ := hr
  refine ⟨?_, Nat.le_refl _, ?_⟩
  · simp [Expr.isCanonical, hll, hrl, hlc, hrc]
  · simp only [Expr.demand, Expr.chainLength, if_true]
    omega

/-- A name needs no levels. -/
theorem Place.Fits.var (name : String) (room : Nat) :
    (Place.var name).Fits (room + (Place.var name).suffixCount) :=
  ⟨rfl, Nat.zero_le _⟩

/-- An index keeps the levels that were free where the place started. -/
theorem Place.Fits.element {base : Place} {index : Expr} {room : Nat}
    (hb : base.Fits (room + 1 + base.suffixCount)) (hi : index.FitsFull room) :
    (Place.element base index).Fits (room + (Place.element base index).suffixCount) := by
  obtain ⟨hbc, hbd⟩ := hb
  obtain ⟨hic, hid⟩ := hi
  refine ⟨by simp [Place.isCanonical, hbc, hic], ?_⟩
  simp only [Place.demand, Place.suffixCount, Expr.fullDemand] at hid ⊢
  omega

/-- A field keeps the levels that were free where the place started. -/
theorem Place.Fits.field {base : Place} {room : Nat} (name : String)
    (hb : base.Fits (room + 1 + base.suffixCount)) :
    (Place.field base name).Fits (room + (Place.field base name).suffixCount) := by
  obtain ⟨hbc, hbd⟩ := hb
  refine ⟨by simp [Place.isCanonical, hbc], ?_⟩
  simp only [Place.demand, Place.suffixCount]
  omega

/-- A call fits if its arguments do, whatever operators may stand around it. -/
theorem Expr.Fits.call {name : String} {arguments : List Expr} {rank room : Nat}
    (h : ∀ e ∈ arguments, e.FitsFull room) : (Expr.call name arguments).Fits rank room := by
  refine ⟨?_, Nat.zero_le _, ?_⟩
  · rw [Expr.isCanonical, Expr.areCanonical_iff]
    exact fun e he => (h e he).canonical
  · rw [Expr.demand, Expr.demandArguments_eq, largest_le]
    exact fun e he => (h e he).demand

namespace Parser

/-- Asking for an operator takes none, or takes one of the precedence. -/
theorem operator?_ok {level : Level} {ts rest : List Token} {op? : Option BinaryOp}
    (h : operator? level ts = .ok (op?, rest)) :
    (op? = none ∧ ts = rest) ∨
      ∃ op, op? = some op ∧ op.level = level ∧ ts = .mark op.mark :: rest := by
  unfold operator? at h
  split at h
  · next m rest' =>
    split at h
    · next op hop =>
      split at h
      · next hl =>
        cases h
        exact .inr ⟨op, rfl, hl, by rw [BinaryOp.ofMark?_eq_some_iff.mp hop]⟩
      · cases h
        exact .inl ⟨rfl, rfl⟩
    · cases h
      exact .inl ⟨rfl, rfl⟩
  · cases h
    exact .inl ⟨rfl, rfl⟩

/-- Asking for an operator in front of an operand takes none, or takes one. -/
theorem unaryOperator?_ok {ts rest : List Token} {op? : Option UnaryOp}
    (h : unaryOperator? ts = .ok (op?, rest)) :
    (op? = none ∧ ts = rest) ∨ ∃ op, op? = some op ∧ ts = .mark op.mark :: rest := by
  unfold unaryOperator? at h
  split at h
  · next m rest' =>
    split at h
    · next op hop =>
      cases h
      exact .inr ⟨op, rfl, by rw [UnaryOp.ofMark?_eq_some_iff.mp hop]⟩
    · cases h
      exact .inl ⟨rfl, rfl⟩
  · cases h
    exact .inl ⟨rfl, rfl⟩

/-- What was taken behind the keyword for sizes. -/
theorem sizeofOperand_ok {ts rest : List Token} {e : Expr}
    (h : sizeofOperand ts = .ok (e, rest)) :
    ∃ name, e = .sizeof name ∧ ts = .mark .lparen :: .ident name :: .mark .rparen :: rest := by
  obtain ⟨_, mid₁, hopen, h₁⟩ := bind_ok h
  obtain ⟨name, mid₂, hname, h₂⟩ := bind_ok h₁
  obtain ⟨_, mid₃, hclose, h₃⟩ := bind_ok h₂
  obtain ⟨rfl, rfl⟩ := pure_ok h₃
  rw [expect_ok hopen, identifier_ok hname, expect_ok hclose]
  exact ⟨name, rfl, rfl⟩

/-- The operands of a precedence are the chains of the next tighter one. -/
theorem operand_eq_binary {level tighter : Level} (h : level.tighter? = some tighter)
    (room : Nat) : operand level room = binary tighter room := by
  unfold operand
  split
  · next t ht =>
    rw [h] at ht
    cases ht
    rfl
  · next ht =>
    rw [h] at ht
    cases ht

/-- The operands of the tightest precedence are operands with operators in front. -/
theorem operand_eq_unary {level : Level} (h : level.tighter? = none) (room : Nat) :
    operand level room = unary room := by
  unfold operand
  split
  · next t ht =>
    rw [h] at ht
    cases ht
  · rfl

/-- What the parser of a chain gives, with `room` levels left behind the operand `left`. -/
def ChainReads (level : Level) (room : Nat) : Prop :=
  ∀ ⦃left : Expr⦄, left.Fits (level.rank + 1) (room + left.chainLength level) →
    ∀ ⦃ts rest : List Token⦄ ⦃e : Expr⦄, chain level room left ts = .ok (e, rest) →
      left.tokens ++ ts = e.tokens ++ rest ∧
        e.Fits (level.rank + 1) (room + left.chainLength level)

/-- What the parser of indices and fields gives, with `room` levels left behind `base`. -/
def SuffixesRead (room : Nat) : Prop :=
  ∀ ⦃base : Place⦄, base.Fits (room + base.suffixCount) →
    ∀ ⦃ts rest : List Token⦄ ⦃p : Place⦄, suffixes room base ts = .ok (p, rest) →
      base.tokens ++ ts = p.tokens ++ rest ∧ p.Fits (room + base.suffixCount)

/-- What the parsers of expressions give with a given room. -/
structure ReadsWith (room : Nat) : Prop where
  expression : (expression room).Reads Expr.tokens (Expr.FitsFull room)
  operand (level : Level) : (operand level room).Reads Expr.tokens (Expr.Fits level.rank room)
  chain (level : Level) : ChainReads level room
  unary : (unary room).Reads Expr.tokens (Expr.Fits 0 room)
  suffixes : SuffixesRead room

section Step

variable {room : Nat}

/-- A level of the grammar gives back what it was written with if its operands and chains do. -/
theorem binary_reads {level : Level}
    (hoperand : (operand level room).Reads Expr.tokens (Expr.Fits level.rank room))
    (hchain : ChainReads level room) :
    (binary level room).Reads Expr.tokens (Expr.Fits (level.rank + 1) room) := by
  intro ts rest e h
  rw [binary] at h
  obtain ⟨left, mid, hleft, h₁⟩ := bind_ok h
  obtain ⟨hts, hfits⟩ := hoperand hleft
  -- An operand of the level is no chain of the level: none of its levels is open yet.
  have hnone := Expr.chainLength_eq_zero hfits.looseness
  have hstart : left.Fits (level.rank + 1) (room + left.chainLength level) := by
    rw [hnone]
    exact hfits.mono (Nat.le_succ _)
  obtain ⟨hmid, he⟩ := hchain hstart h₁
  rw [hnone] at he
  exact ⟨hts.trans hmid, he⟩

/-- A full expression opens a level, so it rests on the level of room below. -/
theorem expression_reads_step (prev : ∀ r, room = r + 1 → ReadsWith r) :
    (expression room).Reads Expr.tokens (Expr.FitsFull room) := by
  intro ts rest e h
  cases room with
  | zero =>
    rw [expression] at h
    exact absurd h fail_ne_ok
  | succ room =>
    rw [expression] at h
    have hprev := prev room rfl
    obtain ⟨hts, hfits⟩ := binary_reads (hprev.operand .bitOr) (hprev.chain .bitOr) h
    exact ⟨hts, hfits.canonical, Nat.succ_le_succ hfits.demand⟩

/-- An operator of a chain opens a level; what was read so far becomes the first operand of it. -/
theorem chain_reads_step (prev : ∀ r, room = r + 1 → ReadsWith r) (level : Level) :
    ChainReads level room := by
  intro left hleft ts rest e h
  rw [chain] at h
  obtain ⟨op?, mid, hop, h₁⟩ := bind_ok h
  rcases operator?_ok hop with ⟨rfl, rfl⟩ | ⟨op, rfl, hlevel, hts⟩
  · obtain ⟨rfl, rfl⟩ := pure_ok h₁
    exact ⟨rfl, hleft⟩
  · cases room with
    | zero => exact absurd h₁ fail_ne_ok
    | succ room =>
      -- The room loses the level that the operator opens, and the chain is one operator longer.
      have hprev := prev room rfl
      obtain ⟨right, mid', hright, h₂⟩ := bind_ok (keepOpen_ok h₁)
      obtain ⟨hmid, hfits⟩ := hprev.operand level hright
      obtain ⟨hrest, he⟩ := hprev.chain level (hleft.binary hlevel hfits) h₂
      rw [Expr.chainLength, if_pos hlevel] at he
      rw [Nat.add_right_comm room 1, hts, hmid]
      exact ⟨by rw [← hrest]; simp [Expr.tokens], he⟩

/-- An index or a field opens a level; the place so far becomes the base of it. -/
theorem suffixes_read_step (prev : ∀ r, room = r + 1 → ReadsWith r) : SuffixesRead room := by
  intro base hbase ts rest p h
  unfold suffixes at h
  split at h
  · -- An index, which is a full expression of its own.
    cases room with
    | zero => exact absurd h fail_ne_ok
    | succ room =>
      have hprev := prev room rfl
      obtain ⟨index, mid, hindex, h₁⟩ := bind_ok (keepOpen_ok h)
      obtain ⟨_, mid', hclose, h₂⟩ := bind_ok h₁
      obtain ⟨hts, hfits⟩ := hprev.expression hindex
      obtain ⟨hrest, hp⟩ := hprev.suffixes (hbase.element hfits) h₂
      rw [Place.suffixCount] at hp
      rw [hts, expect_ok hclose, Nat.add_right_comm room 1]
      exact ⟨by rw [← hrest]; simp [Place.tokens], hp⟩
  · -- A field.
    cases room with
    | zero => exact absurd h fail_ne_ok
    | succ room =>
      obtain ⟨name, mid, hname, h₁⟩ := bind_ok (keepOpen_ok h)
      obtain ⟨hrest, hp⟩ := (prev room rfl).suffixes (hbase.field name) h₁
      rw [Place.suffixCount] at hp
      rw [identifier_ok hname, Nat.add_right_comm room 1]
      exact ⟨by rw [← hrest]; simp [Place.tokens], hp⟩
  · cases h
    exact ⟨rfl, hbase⟩

/-- What stands in parentheses is a full expression of its own. -/
theorem bounded_reads (hexpr : (expression room).Reads Expr.tokens (Expr.FitsFull room))
    {ts rest : List Token} {e : Expr} (h : bounded room ts = .ok (e, rest)) :
    ∃ inner, e = .bounded inner ∧ ts = inner.tokens ++ .mark .rparen :: rest ∧
      inner.FitsFull room := by
  rw [bounded] at h
  obtain ⟨inner, mid, hinner, h₁⟩ := bind_ok h
  obtain ⟨_, mid', hclose, h₂⟩ := bind_ok h₁
  obtain ⟨rfl, rfl⟩ := pure_ok h₂
  obtain ⟨hts, hfits⟩ := hexpr hinner
  rw [hts, expect_ok hclose]
  exact ⟨inner, rfl, rfl, hfits⟩

/-- Each argument is a full expression of its own. -/
theorem arguments_reads (hexpr : (expression room).Reads Expr.tokens (Expr.FitsFull room)) :
    (arguments room).Reads (Expr.tokensList · ++ [.mark .rparen])
      fun es => ∀ e ∈ es, e.FitsFull room := by
  intro ts rest es h
  rw [arguments] at h
  obtain ⟨es', mid, hes, h₁⟩ := bind_ok h
  obtain ⟨_, mid', hclose, h₂⟩ := bind_ok h₁
  obtain ⟨rfl, rfl⟩ := pure_ok h₂
  obtain ⟨hts, hfits⟩ := separatedUntil_reads .rparen hexpr hes
  refine ⟨?_, hfits⟩
  rw [hts, expect_ok hclose, ← Expr.tokensList_eq, List.append_assoc, List.singleton_append]

/-- Operands without operators, one form after the other. -/
theorem term_reads (hexpr : (expression room).Reads Expr.tokens (Expr.FitsFull room))
    (hsuffixes : SuffixesRead room) : (term room).Reads Expr.tokens (Expr.Fits 0 room) := by
  intro ts rest e h
  unfold term at h
  split at h
  -- The seven forms of a single token.
  iterate 7
    · cases h
      exact ⟨rfl, .leaf rfl rfl rfl⟩
  · obtain ⟨name, rfl, hts⟩ := sizeofOperand_ok h
    exact ⟨by rw [hts]; rfl, .leaf rfl rfl rfl⟩
  · obtain ⟨inner, rfl, hts, hfits⟩ := bounded_reads hexpr h
    refine ⟨by rw [hts]; simp [Expr.tokens], ?_, Nat.zero_le _, hfits.demand⟩
    rw [Expr.isCanonical]
    exact hfits.canonical
  · obtain ⟨arguments, harguments, rfl⟩ := map_ok h
    obtain ⟨hts, hfits⟩ := arguments_reads hexpr harguments
    exact ⟨by rw [hts]; simp [Expr.tokens], .call hfits⟩
  · obtain ⟨p, hp, rfl⟩ := map_ok h
    obtain ⟨hts, hfits⟩ := hsuffixes (Place.Fits.var _ room) hp
    refine ⟨hts, ?_, Nat.zero_le _, hfits.demand⟩
    rw [Expr.isCanonical]
    exact hfits.canonical
  · exact absurd h fail_ne_ok

/-- An operator in front of an operand opens a level for it. -/
theorem unary_reads_step (prev : ∀ r, room = r + 1 → ReadsWith r)
    (hterm : (term room).Reads Expr.tokens (Expr.Fits 0 room)) :
    (unary room).Reads Expr.tokens (Expr.Fits 0 room) := by
  intro ts rest e h
  rw [unary] at h
  obtain ⟨op?, mid, hop, h₁⟩ := bind_ok h
  rcases unaryOperator?_ok hop with ⟨rfl, rfl⟩ | ⟨op, rfl, hts⟩
  · exact hterm h₁
  · cases room with
    | zero => exact absurd h₁ fail_ne_ok
    | succ room =>
      obtain ⟨operand, mid', hoperand, h₂⟩ := bind_ok h₁
      obtain ⟨rfl, rfl⟩ := pure_ok h₂
      obtain ⟨hmid, hfits⟩ := (prev room rfl).unary hoperand
      have hl : operand.looseness = 0 := Nat.le_zero.mp hfits.looseness
      refine ⟨by rw [hts, hmid]; rfl, ?_, Nat.zero_le _, Nat.succ_le_succ hfits.demand⟩
      simp [Expr.isCanonical, hl, hfits.canonical]

/-- From the tightest level on, an operand is a chain of the next tighter level. -/
theorem operand_reads_step (hchain : ∀ level, ChainReads level room)
    (hunary : (unary room).Reads Expr.tokens (Expr.Fits 0 room)) (level : Level) :
    (operand level room).Reads Expr.tokens (Expr.Fits level.rank room) := by
  intro ts rest e h
  cases ht : level.tighter? with
  | none =>
    rw [operand_eq_unary ht] at h
    obtain ⟨hts, hfits⟩ := hunary h
    exact ⟨hts, hfits.mono (Nat.zero_le _)⟩
  | some tighter =>
    have hlt := Level.rank_lt_of_tighter? ht
    rw [operand_eq_binary ht] at h
    obtain ⟨hts, hfits⟩ :=
      binary_reads (operand_reads_step hchain hunary tighter) (hchain tighter) h
    exact ⟨hts, hfits.mono hlt⟩
termination_by level.rank

end Step

/-- Whatever the room is, the parsers of expressions give what fits in it. -/
theorem readsWith (room : Nat) : ReadsWith room := by
  -- With the same room the parsers call each other in this order only; whatever calls back to one
  -- that comes earlier has opened a level.
  have step : ∀ room, (∀ r, room = r + 1 → ReadsWith r) → ReadsWith room := by
    intro room prev
    have hexpr := expression_reads_step prev
    have hsuffixes := suffixes_read_step prev
    have hunary := unary_reads_step prev (term_reads hexpr hsuffixes)
    have hchain := chain_reads_step prev
    exact ⟨hexpr, operand_reads_step hchain hunary, hchain, hunary, hsuffixes⟩
  induction room with
  | zero => exact step 0 nofun
  | succ room ih =>
    refine step (room + 1) fun r hr => ?_
    cases hr
    exact ih

/-- A full expression that was read has the tokens that were taken, keeps to the precedence of its
operators, and had the levels that it needs. -/
theorem expression_reads (room : Nat) :
    (expression room).Reads Expr.tokens (Expr.FitsFull room) := (readsWith room).expression

theorem place_reads (room : Nat) : (place room).Reads Place.tokens (Place.Fits room) := by
  intro ts rest p h
  obtain ⟨name, mid, hname, hsuffixes⟩ := bind_ok h
  rw [identifier_ok hname]
  exact (readsWith room).suffixes (Place.Fits.var name room) hsuffixes

theorem assignment_reads (room : Nat) :
    (assignment room).Reads Assignment.tokens (Assignment.Fits room) := by
  intro ts rest a h
  obtain ⟨p, mid₁, hp, h₁⟩ := bind_ok h
  obtain ⟨_, mid₂, hassign, h₂⟩ := bind_ok h₁
  obtain ⟨value, mid₃, hvalue, h₃⟩ := bind_ok h₂
  obtain ⟨rfl, rfl⟩ := pure_ok h₃
  obtain ⟨hts, hplace⟩ := place_reads room hp
  obtain ⟨hmid, hfits⟩ := expression_reads room hvalue
  refine ⟨?_, ?_, ?_⟩
  · rw [hts, expect_ok hassign, hmid]
    simp [Assignment.tokens]
  · simp [Assignment.isCanonical, hplace.canonical, hfits.canonical]
  · exact Nat.max_le.mpr ⟨hplace.demand, hfits.demand⟩

end Parser

end SyntaxOutline
