import SyntaxOutline.Proofs.Grammar.ProgramVerdict
import SyntaxOutline.Proofs.Lexer.LaidOut
import SyntaxOutline.Proofs.Program.Nesting

/-!
# What the limit on nesting limits

The parser refuses a program that needs more than `maxNesting` levels. That bounds how deeply the
programs that it gives are nested, but the bound is not `maxNesting`: the levels of a chain are
given back when the chain ends, while its operators stay above its first operand in the tree.
Without these nodes `maxNesting` is the bound, and with them it is `maxTreeNesting`, which a source
reaches (`parse_nesting_le_iff`).
-/

namespace SyntaxOutline

/-- The deepest nesting of a program that needs at most `maxNesting` levels. -/
def maxTreeNesting : Nat := 48895

/-- How the deepest nesting grows with the room, in a closed form. -/
theorem deepestExpr_eq (room : Nat) : deepestExpr room = 3 * room * room + 4 * room := by
  have hoperand : deepestOperand room + 2 * room = 3 * room * room := by
    induction room with
    | zero => rfl
    | succ room ih =>
      have hsquare : 3 * (room + 1) * (room + 1) = 3 * room * room + 6 * room + 3 := by ring
      rw [deepestOperand, hsquare, ← ih]
      omega
  rw [deepestExpr]
  omega

/-- The bound that the levels give, as a number. -/
theorem deepestStmt_maxNesting : deepestStmt maxNesting = maxTreeNesting := by
  rw [deepestStmt, deepestExpr_eq]
  rfl

/-- What a source spells is nested no deeper than the levels allow. -/
theorem nesting_le_of_parse {source : String} {p : Program} (h : parse source = .ok p) :
    p.nesting ≤ maxTreeNesting := by
  have hfits := (parse_ok h).2
  rw [← deepestStmt_maxNesting]
  exact Program.nesting_le hfits.canonical hfits.demand

/-! ## A source for the deepest programs -/

/-- A program that can be written, keeps to the precedence of its operators and does not need too
many levels is what some source spells. -/
theorem exists_parse_eq {p : Program} (hc : p.isCanonical = true)
    (hspelled : ∀ t ∈ p.tokens, t.WellSpelled) (hd : p.demand ≤ maxNesting) :
    ∃ source, parse source = .ok p := by
  obtain ⟨source, list, hlist, htokens⟩ := exists_source hspelled
  have hkinds : tokenKinds? source = some p.tokens := by
    rw [tokenKinds?, hlist, ← htokens]
    rfl
  exact ⟨source, parse_of_demand_le hc hkinds hd⟩

/-- A chain can be written if its first operand can. -/
theorem Expr.wellSpelled_chained {e : Expr} (h : ∀ t ∈ e.tokens, t.WellSpelled) (op : BinaryOp)
    (n : Nat) : ∀ t ∈ (Expr.chained op n e).tokens, t.WellSpelled := by
  induction n with
  | zero => exact h
  | succ n ih =>
    have hstep : (Expr.chained op (n + 1) e).tokens =
        (Expr.chained op n e).tokens ++ [.mark op.mark, .keyword .null] := rfl
    rw [hstep, List.forall_mem_append]
    exact ⟨ih, List.forall_mem_cons.mpr ⟨trivial, List.forall_mem_singleton.mpr trivial⟩⟩

/-- The deepest expression has no names and no literals but the null pointer, so it can be
written. -/
theorem wellSpelled_deepestTree (room : Nat) :
    ∀ t ∈ (deepestTree room).tokens, t.WellSpelled := by
  induction room with
  | zero => exact List.forall_mem_singleton.mpr trivial
  | succ room ih =>
    have hinner : ∀ t ∈ (Expr.bounded (deepestTree room)).tokens, t.WellSpelled := by
      rw [Expr.tokens, List.forall_mem_cons, List.forall_mem_append]
      exact ⟨trivial, ih, List.forall_mem_singleton.mpr trivial⟩
    -- Whichever operators the chains around the parentheses have.
    have hchains : ∀ (ops : List BinaryOp) (e : Expr), (∀ t ∈ e.tokens, t.WellSpelled) →
        ∀ t ∈ (ops.foldl (fun e op => Expr.chained op (room + 1) e) e).tokens, t.WellSpelled := by
      intro ops
      induction ops with
      | nil => exact fun e he => he
      | cons op ops ih => exact fun e he => ih _ (Expr.wellSpelled_chained he op (room + 1))
    exact hchains _ _ hinner

/-- The program that is nested most deeply with some room has a source. -/
theorem exists_parse_deepest (room : Nat) (h : room + 1 ≤ maxNesting) :
    ∃ source p, parse source = .ok p ∧ p.demand ≤ room + 1 ∧ p.nesting = deepestExpr room := by
  obtain ⟨hc, hd, hn⟩ := deepestProgram_nested room
  have hname : (Token.ident "f").WellSpelled := by
    have hscan : Token.scan 'f' [] = .ok (.ident "f", []) := by cbv
    exact Token.wellSpelled_of_scan hscan
  have htokens : (deepestProgram room).tokens =
      [.keyword .void, .ident "f", .mark .lparen, .mark .rparen, .mark .lcurly,
        .keyword .return_] ++ ((deepestTree room).tokens ++ [.mark .semicolon, .mark .rcurly]) := by
    simp [deepestProgram, Program.tokens, Decl.tokens, Decl.signatureTokens, TypeName.tokens,
      separatedBy, Block.tokens, Stmt.tokensAll, Stmt.tokens, Expr.tokens?]
  have hspelled : ∀ t ∈ (deepestProgram room).tokens, t.WellSpelled := by
    rw [htokens, List.forall_mem_append, List.forall_mem_append]
    refine ⟨?_, wellSpelled_deepestTree room, ?_⟩
    · simpa [Token.WellSpelled] using hname
    · simp [Token.WellSpelled]
  obtain ⟨source, hsource⟩ := exists_parse_eq hc hspelled (Nat.le_trans hd h)
  exact ⟨source, deepestProgram room, hsource, hd, hn⟩

/-- When what a source spells is nested no deeper than `maxNesting`: exactly if on each way down the
nodes above first operands, which are not counted, have room beside the counted ones. Those that are
counted always have room, and six levels are always few enough. Whatever levels a source needs, what
it spells is nested no deeper than `maxTreeNesting`. With seven levels it may be nested deeper than
`maxNesting`, and some source reaches `maxTreeNesting`. -/
theorem parse_nesting_le_iff (source : String) :
    (∀ p, parse source = .ok p →
      (p.nesting ≤ maxNesting ↔ ∀ w ∈ p.ways, w.uncounted ≤ maxNesting - w.counted) ∧
      (∀ w ∈ p.ways, w.counted ≤ maxNesting) ∧
      (p.demand ≤ 6 → p.nesting ≤ maxNesting) ∧ p.nesting ≤ maxTreeNesting) ∧
    (∃ other p, parse other = .ok p ∧ p.demand ≤ 7 ∧ maxNesting < p.nesting) ∧
    ∃ other p, parse other = .ok p ∧ p.nesting = maxTreeNesting := by
  refine ⟨?_, ?_, ?_⟩
  · intro p hp
    have hfits := (parse_ok hp).2
    have hcounted := Program.counted_le hfits.canonical hfits.demand
    refine ⟨?_, hcounted, ?_, nesting_le_of_parse hp⟩
    · -- The nesting is the number of nodes on the longest way.
      rw [← p.largest_nodes, largest_le]
      constructor
      · intro hnodes w hw
        have hle : w.counted + w.uncounted ≤ maxNesting := hnodes w hw
        omega
      · intro hroom w hw
        have hle := hroom w hw
        have hfew := hcounted w hw
        show w.counted + w.uncounted ≤ maxNesting
        omega
    · intro hfew
      have hle := Program.nesting_le hfits.canonical hfew
      exact Nat.le_trans hle (by decide)
  · -- Seven levels are enough to go past the limit,
    obtain ⟨other, p, hp, hd, hn⟩ := exists_parse_deepest 6 (by decide)
    refine ⟨other, p, hp, hd, ?_⟩
    rw [hn]
    decide
  · -- and with all levels the bound is reached.
    obtain ⟨other, p, hp, -, hn⟩ := exists_parse_deepest 127 (by decide)
    exact ⟨other, p, hp, hn.trans (deepestExpr_eq 127)⟩

/-- A function that multiplies the 127-fold negation of a variable twice. -/
def negationsTimes : Program :=
  ⟨[.function .void "f" []
    ⟨[], [.assign ⟨.var "x",
      .binary .times
        (.binary .times (Nat.repeat (.unary .negate) 127 (.place (.var "a"))) (.place (.var "b")))
        (.place (.var "b"))⟩]⟩]⟩

/-- The source of `negationsTimes`. -/
def negationsTimesSource : String :=
  "void f()\x7bx=" ++ String.ofList (List.replicate 127 '-') ++ "a*b*b;\x7d"

theorem parse_negationsTimesSource : parse negationsTimesSource = .ok negationsTimes :=
  parse_of_demand_le (by decide +kernel) (by decide +kernel) (by decide +kernel)

/-- The negations fill the room and give it back, and two operators stand above them. -/
theorem parse_nesting_negationsTimes :
    parse negationsTimesSource = .ok negationsTimes ∧ negationsTimes.demand = maxNesting ∧
      negationsTimes.nesting = maxNesting + 1 :=
  ⟨parse_negationsTimesSource, by decide +kernel, by decide +kernel⟩

end SyntaxOutline
