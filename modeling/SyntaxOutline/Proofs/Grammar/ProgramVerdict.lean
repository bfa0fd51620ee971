import SyntaxOutline.Proofs.Grammar.ExpressionVerdict
import SyntaxOutline.Proofs.Grammar.ProgramReads

/-!
# The tokens of a program are read back

Declarations, statements and blocks are read back from their tokens as expressions are: if the
levels that they need fit in the room, and else they are refused for their nesting. Nothing but the
keyword of an alternative can go on with a statement, and only with a condition that has none.

`verdict_program` says this of the parser of programs, for any room.
-/

namespace SyntaxOutline

namespace Parser

/-! ## Types, variables and parameters -/

@[simp] theorem verdict_typeName (t : TypeName) (rest : List Token) :
    typeName.verdict (t.tokens ++ rest) = .ok (t, rest) := by
  cases t <;> rfl

/-- What a type is written as starts a type, so the loop over variables goes on there. -/
theorem startsType_tokens (t : TypeName) (rest : List Token) :
    startsType (t.tokens ++ rest) = true := by
  cases t <;> rfl

@[simp] theorem verdict_arraySize (l : IntLiteral) (rest : List Token) :
    arraySize.verdict (.intLit l.text :: rest) = .ok (l, rest) := rfl

/-- What follows the name of a variable is read back. -/
theorem verdict_variableRest (type : TypeName) (name : String) (size? : Option IntLiteral)
    (rest : List Token) :
    (variableRest type name).verdict (VarDecl.sizeTokens size? ++ .mark .semicolon :: rest) =
      .ok (⟨type, name, size?⟩, rest) := by
  cases size? with
  | none =>
    have hbracket : (accept .lbracket).verdict (.mark .semicolon :: rest) =
        .ok (false, .mark .semicolon :: rest) := verdict_accept_of_not rfl
    simp [variableRest, VarDecl.sizeTokens, hbracket]
  | some size => simp [variableRest, VarDecl.sizeTokens]

/-- A variable is read back. -/
theorem verdict_varDecl (v : VarDecl) (rest : List Token) :
    varDecl.verdict (v.tokens ++ rest) = .ok (v, rest) := by
  rw [varDecl, VarDecl.tokens, List.append_assoc, List.cons_append, List.append_assoc,
    verdict_bind_ok (verdict_typeName ..), verdict_bind_ok (verdict_identifier ..),
    List.singleton_append, verdict_variableRest]

/-- Variables are read back up to where no type starts. -/
theorem verdict_varDecls (vs : List VarDecl) {rest : List Token} (h : startsType rest = false) :
    varDecls.verdict (vs.flatMap VarDecl.tokens ++ rest) = .ok (vs, rest) := by
  have hvs : varDecls.verdict (vs.flatMap VarDecl.tokens ++ rest) =
      within (largest (fun _ => 0) vs) 0 (.ok (vs, rest)) := by
    refine verdict_repeatWhile (fun _ => True) h trivial vs ?_ ?_ ?_
    · intro v _ mid
      rw [VarDecl.tokens, List.append_assoc]
      exact ⟨startsType_tokens v.type _, trivial⟩
    · intro v _
      simp [VarDecl.tokens]
    · intro v _ mid _
      rw [verdict_varDecl, within_zero]
  rw [hvs]
  exact within_of_le (largest_le.mpr fun _ _ => Nat.le_refl 0) _

/-- A parameter is read back. -/
theorem verdict_formal (f : Formal) (rest : List Token) :
    formal.verdict (f.tokens ++ rest) = .ok (f, rest) := by
  rw [formal, Formal.tokens, List.append_assoc, verdict_bind_ok (verdict_typeName ..)]
  simp

/-- Parameters are read back up to the parenthesis that closes them. -/
theorem verdict_formals (fs : List Formal) (rest : List Token) :
    formals.verdict (separatedBy (.mark .comma) Formal.tokens fs ++ .mark .rparen :: rest) =
      .ok (fs, rest) := by
  have hfs : (separatedUntil .rparen formal).verdict
      (separatedBy (.mark .comma) Formal.tokens fs ++ .mark .rparen :: rest) =
      within (largest (fun _ => 0) fs) 0 (.ok (fs, .mark .rparen :: rest)) := by
    refine verdict_separatedUntil (by nofun) fs rest ?_ ?_
    · intro f _ mid
      obtain ⟨type, name⟩ := f
      cases type <;> rfl
    · intro f _ n mid _
      rw [verdict_formal, within_zero]
  rw [formals, verdict_bind, hfs, within_of_le (largest_le.mpr fun _ _ => Nat.le_refl 0), ok_bind,
    verdict_bind_ok (verdict_expect ..), verdict_pure]

/-! ## Statements -/

/-- A statement is read back from its tokens, unless what follows goes on with it. -/
def StmtReadBack (s : Stmt) : Prop :=
  ∀ room rest, rest.head? ≠ some (.keyword .else_) →
    (statement room).verdict (s.tokens ++ rest) = within s.demand room (.ok (s, rest))

/-- The contents of a block are read back from their tokens. -/
def BlockReadBack (b : Block) : Prop :=
  ∀ room rest, (blockContents room).verdict (b.contents ++ .mark .rcurly :: rest) =
    within b.demand room (.ok (b, .mark .rcurly :: rest))

/-- A statement starts with no type, no closing brace and no alternative. -/
theorem stmt_start (s : Stmt) (rest : List Token) :
    startsType (s.tokens ++ rest) = false ∧ insideBlock (s.tokens ++ rest) = true ∧
      (s.tokens ++ rest).head? ≠ some (.keyword .else_) := by
  cases s with
  | assign a =>
    rw [Stmt.tokens, Assignment.tokens, Place.tokens_eq]
    exact ⟨rfl, rfl, by rintro ⟨⟩⟩
  | _ => exact ⟨rfl, rfl, by rintro ⟨⟩⟩

/-- A block is read back in its braces, with one level for the block itself. -/
theorem BlockReadBack.block {b : Block} (h : BlockReadBack b) (context : Context) (room : Nat)
    (rest : List Token) :
    (block context room).verdict (b.tokens ++ rest) =
      within (b.demand + 1) room (.ok (b, rest)) := by
  rw [Block.tokens_eq, List.cons_append, List.append_assoc, List.singleton_append]
  cases room with
  | zero => rw [Parser.block, verdict_bind_ok (verdict_expect ..), verdict_fail, within_succ_zero]
  | succ room =>
    rw [Parser.block, verdict_bind_ok (verdict_expect ..), verdict_bind_within (h ..),
      verdict_bind_ok (verdict_expect ..), verdict_pure, Nat.add_comm b.demand, Nat.add_comm room,
      within_add]

/-- A condition is read back in its parentheses. -/
theorem verdict_condition {c : Expr} (h : c.isCanonical = true) (k : Keyword) (closing : Context)
    (room : Nat) (rest : List Token) :
    (condition k closing room).verdict
        (.mark .lparen :: (c.tokens ++ .mark .rparen :: rest)) =
      within c.fullDemand room (.ok (c, rest)) := by
  rw [condition, verdict_bind_ok (verdict_expect ..),
    verdict_bind_within ((readBack c h).expression room rfl ..),
    verdict_bind_ok (verdict_expect ..), verdict_pure]

/-- A part that may be missing, in front of a mark that it does not start with. -/
theorem verdict_unlessNext_tokens {α : Type} {p : Parser α} {tokens : α → List Token}
    {demand : α → Nat} {m : Mark} {room : Nat} {rest : List Token} (a? : Option α)
    (hstart : ∀ a, isNext m (tokens a ++ .mark m :: rest) = false)
    (hp : ∀ a, a? = some a → p.verdict (tokens a ++ .mark m :: rest) =
      within (demand a) room (.ok (a, .mark m :: rest))) :
    (unlessNext m p).verdict ((a?.map tokens).getD [] ++ .mark m :: rest) =
      within (largest? demand a?) room (.ok (a?, .mark m :: rest)) := by
  rw [verdict_unlessNext]
  cases a? with
  | none => simp [isNext, largest?]
  | some a =>
    simp only [Option.map_some, Option.getD_some, hstart a, hp a rfl, largest?, within_map, ok_map]
    rfl

/-- The start or the step of a loop is read back, also where there is none. -/
theorem verdict_unlessNext_assignment {a? : Option Assignment}
    (h : a?.all Assignment.isCanonical = true) (room : Nat) {m : Mark}
    (hm : endsExpression m = true) (rest : List Token) :
    (unlessNext m (assignment room)).verdict (Assignment.tokens? a? ++ .mark m :: rest) =
      within (largest? Assignment.demand a?) room (.ok (a?, .mark m :: rest)) := by
  refine verdict_unlessNext_tokens a? ?_ ?_
  · intro a
    rw [Assignment.tokens, List.append_assoc]
    exact isNext_place m a.place _
  · rintro a rfl
    exact verdict_assignment h room hm rest

namespace StmtReadBack

theorem assign {a : Assignment} (h : a.isCanonical = true) : StmtReadBack (.assign a) := by
  intro room rest _
  have hstatement : (statement room).verdict ((Stmt.assign a).tokens ++ rest) =
      (assignStmt room).verdict (a.tokens ++ .mark .semicolon :: rest) := by
    rw [verdict, Stmt.tokens, List.append_assoc, List.singleton_append, Assignment.tokens,
      Place.tokens_eq, List.append_assoc, List.cons_append, statement]
    · rfl
    · -- It is not a call: an index, a field or the assignment follows the name.
      intro rest' heq
      have hassign : isNext .lparen
          (.mark .assign :: (a.value.tokens ++ .mark .semicolon :: rest)) = false := rfl
      have hnext := isNext_suffixTokens a.place hassign
      rw [List.cons_append] at heq
      rw [heq] at hnext
      cases hnext
  rw [hstatement, assignStmt, verdict_bind_within (verdict_assignment h room rfl ..),
    verdict_bind_ok (verdict_expect ..), verdict_pure, Stmt.demand]

/-- A call. The parenthesis behind its name tells it from an assignment. -/
theorem call {c : Call} (h : Expr.areCanonical c.arguments = true) : StmtReadBack (.call c) := by
  intro room rest _
  have hstatement : (statement room).verdict ((Stmt.call c).tokens ++ rest) =
      (callRest c.name room).verdict
        (Expr.tokensList c.arguments ++ .mark .rparen :: .mark .semicolon :: rest) := by
    rw [verdict, Stmt.tokens, Expr.tokens]
    simp only [List.cons_append, List.append_assoc, List.nil_append, statement]
    rfl
  rw [hstatement, callRest, verdict_bind_within (ReadBack.arguments (readBack_all _ h) ..),
    verdict_bind_ok (verdict_expect ..), verdict_pure, Stmt.demand]

/-- A return, with or without a value. -/
theorem return_ {e? : Option Expr} (h : e?.all Expr.isCanonical = true) :
    StmtReadBack (.return_ e?) := by
  intro room rest _
  have hstatement : (statement room).verdict ((Stmt.return_ e?).tokens ++ rest) =
      (returnRest room).verdict (Expr.tokens? e? ++ .mark .semicolon :: rest) := by
    rw [verdict, Stmt.tokens]
    simp only [List.cons_append, List.append_assoc, List.nil_append, statement]
    rfl
  have hvalue : (unlessNext .semicolon (expression room)).verdict
      (Expr.tokens? e? ++ .mark .semicolon :: rest) =
      within (largest? Expr.fullDemand e?) room (.ok (e?, .mark .semicolon :: rest)) := by
    refine verdict_unlessNext_tokens e? (fun e => isNext_expression rfl e _) ?_
    rintro e rfl
    exact (readBack e h).expression room rfl rest
  rw [hstatement, returnRest, verdict_bind_within hvalue, verdict_bind_ok (verdict_expect ..),
    verdict_pure, Stmt.demand]

/-- A loop with a condition. -/
theorem whileLoop {c : Expr} {body : Block} (hc : c.isCanonical = true)
    (hbody : BlockReadBack body) : StmtReadBack (.whileLoop c body) := by
  intro room rest _
  have hstatement : (statement room).verdict ((Stmt.whileLoop c body).tokens ++ rest) =
      (do
        let condition ← condition .while_ .afterWhileCondition room
        let body ← block .afterWhileCondition room
        return .whileLoop condition body : Parser Stmt).verdict
        (.mark .lparen :: (c.tokens ++ .mark .rparen :: (body.tokens ++ rest))) := by
    rw [verdict, Stmt.tokens, Stmt.conditionTokens]
    simp only [List.cons_append, List.append_assoc, List.nil_append, statement]
    rfl
  rw [hstatement, verdict_bind_within (verdict_condition hc ..),
    verdict_bind_within (hbody.block ..), verdict_pure, within_within, Stmt.demand]

/-- Behind the keyword of a condition. -/
theorem verdict_if (room : Nat) (ts : List Token) :
    (statement room).verdict (.keyword .if_ :: ts) =
      (do
        let condition ← condition .if_ .afterIfCondition room
        let body ← block .afterIfCondition room
        if ← acceptKeyword .else_ then
          let other ← block (.afterKeyword .else_) room
          return .ifElse condition body other
        else
          return .ifThen condition body : Parser Stmt).verdict ts := by
  rw [verdict, statement]
  rfl

/-- A condition without another way. That no `else` follows is what keeps the parser from looking
for one. -/
theorem ifThen {c : Expr} {body : Block} (hc : c.isCanonical = true)
    (hbody : BlockReadBack body) : StmtReadBack (.ifThen c body) := by
  intro room rest hrest
  have htokens : (Stmt.ifThen c body).tokens ++ rest =
      .keyword .if_ :: .mark .lparen :: (c.tokens ++ .mark .rparen :: (body.tokens ++ rest)) := by
    simp [Stmt.tokens, Stmt.conditionTokens]
  rw [htokens, verdict_if, verdict_bind_within (verdict_condition hc ..),
    verdict_bind_within (hbody.block ..), verdict_bind_ok (verdict_acceptKeyword_of_not hrest),
    within_within, Stmt.demand]
  rfl

/-- A condition with another way. -/
theorem ifElse {c : Expr} {body other : Block} (hc : c.isCanonical = true)
    (hbody : BlockReadBack body) (hother : BlockReadBack other) :
    StmtReadBack (.ifElse c body other) := by
  intro room rest _
  have htokens : (Stmt.ifElse c body other).tokens ++ rest =
      .keyword .if_ :: .mark .lparen :: (c.tokens ++ .mark .rparen ::
        (body.tokens ++ .keyword .else_ :: (other.tokens ++ rest))) := by
    simp [Stmt.tokens, Stmt.conditionTokens]
  rw [htokens, verdict_if, verdict_bind_within (verdict_condition hc ..),
    verdict_bind_within (hbody.block ..), verdict_bind_ok (verdict_acceptKeyword ..)]
  simp only [if_true]
  rw [verdict_bind_within (hother.block ..), verdict_pure, within_within, within_within,
    Stmt.demand, Nat.max_assoc]

/-- A loop with a start and a step, either of which may be missing. -/
theorem forLoop {start? step? : Option Assignment} {c : Expr} {body : Block}
    (hstart : start?.all Assignment.isCanonical = true) (hc : c.isCanonical = true)
    (hstep : step?.all Assignment.isCanonical = true) (hbody : BlockReadBack body) :
    StmtReadBack (.forLoop start? c step? body) := by
  intro room rest _
  have htokens : (Stmt.forLoop start? c step? body).tokens ++ rest =
      .keyword .for_ :: .mark .lparen :: (Assignment.tokens? start? ++ .mark .semicolon ::
        (c.tokens ++ .mark .semicolon :: (Assignment.tokens? step? ++ .mark .rparen ::
          (body.tokens ++ rest)))) := by
    simp [Stmt.tokens]
  rw [htokens, verdict, statement]
  show (_ >>= _ : Parser Stmt).verdict _ = _
  -- From left to right; each part that needs levels puts its need in front.
  rw [verdict_bind_ok (verdict_expect ..),
    verdict_bind_within (verdict_unlessNext_assignment hstart room rfl ..),
    verdict_bind_ok (verdict_expect ..),
    verdict_bind_within ((readBack c hc).expression room rfl ..),
    verdict_bind_ok (verdict_expect ..),
    verdict_bind_within (verdict_unlessNext_assignment hstep room rfl ..),
    verdict_bind_ok (verdict_expect ..), verdict_bind_within (hbody.block ..), verdict_pure,
    within_within, within_within, within_within, Stmt.demand, Nat.max_assoc, Nat.max_assoc]

end StmtReadBack

/-! ## Blocks -/

/-- A block is read back if its statements are; it needs what the one that needs most does. -/
theorem BlockReadBack.of_stmts (decls : List VarDecl) {stmts : List Stmt}
    (h : ∀ s ∈ stmts, StmtReadBack s) : BlockReadBack ⟨decls, stmts⟩ := by
  intro room rest
  have hstmts : (repeatWhile insideBlock (blockStmt room)).verdict
      (stmts.flatMap Stmt.tokens ++ .mark .rcurly :: rest) =
      within (largest Stmt.demand stmts) room (.ok (stmts, .mark .rcurly :: rest)) := by
    -- Behind a statement stands another one or the closing brace, and neither is an alternative.
    refine verdict_repeatWhile (fun ts => ts.head? ≠ some (.keyword .else_)) rfl (by simp) stmts
      ?_ ?_ ?_
    · intro s _ mid
      exact (stmt_start s mid).2
    · intro s _ hnil
      have hinside := (stmt_start s []).2.1
      rw [hnil] at hinside
      cases hinside
    · intro s hs mid hmid
      rw [verdict, blockStmt, (stmt_start s mid).1]
      exact h s hs room mid hmid
  -- No declaration follows the declarations: a statement or the closing brace does.
  have hdecls : startsType (stmts.flatMap Stmt.tokens ++ .mark .rcurly :: rest) = false := by
    cases stmts with
    | nil => rfl
    | cons s ss =>
      rw [List.flatMap_cons, List.append_assoc]
      exact (stmt_start s _).1
  rw [blockContents, Block.contents, List.append_assoc,
    verdict_bind_ok (verdict_varDecls _ hdecls), verdict_bind_within hstmts, verdict_pure,
    Block.demand, Stmt.demandAll_eq]

mutual
/-- Every statement that keeps to the precedence of its operators is read back. -/
theorem stmtReadBack : ∀ s : Stmt, s.isCanonical = true → StmtReadBack s
  | .assign _, h => by
    rw [Stmt.isCanonical] at h
    exact .assign h
  | .call _, h => by
    rw [Stmt.isCanonical] at h
    exact .call h
  | .ifThen _ body, h => by
    rw [Stmt.isCanonical, Bool.and_eq_true] at h
    exact .ifThen h.1 (blockReadBack body h.2)
  | .ifElse _ body other, h => by
    rw [Stmt.isCanonical, Bool.and_eq_true, Bool.and_eq_true] at h
    exact .ifElse h.1.1 (blockReadBack body h.1.2) (blockReadBack other h.2)
  | .forLoop _ _ _ body, h => by
    rw [Stmt.isCanonical, Bool.and_eq_true, Bool.and_eq_true, Bool.and_eq_true] at h
    exact .forLoop h.1.1.1 h.1.1.2 h.1.2 (blockReadBack body h.2)
  | .whileLoop _ body, h => by
    rw [Stmt.isCanonical, Bool.and_eq_true] at h
    exact .whileLoop h.1 (blockReadBack body h.2)
  | .return_ _, h => by
    rw [Stmt.isCanonical] at h
    exact .return_ h

theorem stmtReadBack_all : ∀ ss : List Stmt, Stmt.areCanonical ss = true →
    ∀ s ∈ ss, StmtReadBack s
  | [], _ => nofun
  | s :: ss, h => by
    rw [Stmt.areCanonical, Bool.and_eq_true] at h
    exact List.forall_mem_cons.mpr ⟨stmtReadBack s h.1, stmtReadBack_all ss h.2⟩

/-- Every block that keeps to the precedence of its operators is read back. -/
theorem blockReadBack : ∀ b : Block, b.isCanonical = true → BlockReadBack b
  | ⟨decls, stmts⟩, h => by
    rw [Block.isCanonical] at h
    exact .of_stmts decls (stmtReadBack_all stmts h)
end

/-! ## Declarations -/

/-- A declaration reads back from its tokens. -/
def DeclReadBack (d : Decl) : Prop :=
  ∀ room rest, (declaration room).verdict (d.tokens ++ rest) = within d.demand room (.ok (d, rest))

/-- What starts with a type and a name is not a struct. -/
theorem verdict_declaration_typed (room : Nat) (t : TypeName) (name : String)
    (ts : List Token) :
    (declaration room).verdict (t.tokens ++ .ident name :: ts) =
      (typedDecl room).verdict (t.tokens ++ .ident name :: ts) := by
  cases t <;> rfl

/-- A function is read back up to its parameters. -/
theorem verdict_signature (room : Nat) (t : TypeName) (name : String) (fs : List Formal)
    (rest : List Token) :
    (declaration room).verdict (Decl.signatureTokens t name fs ++ rest) =
      (functionRest t name fs room).verdict rest := by
  rw [Decl.signatureTokens, List.append_assoc, List.cons_append, List.cons_append,
    List.append_assoc, List.singleton_append, verdict_declaration_typed, typedDecl,
    verdict_bind_ok (verdict_typeName ..), verdict_bind_ok (verdict_identifier ..),
    verdict_bind_ok (verdict_accept ..)]
  simp only [if_true]
  rw [verdict_bind_ok (verdict_formals ..)]

namespace DeclReadBack

/-- A variable outside of functions. -/
theorem var (v : VarDecl) : DeclReadBack (.var v) := by
  intro room rest
  have hvariable : (accept .lparen).verdict
      (VarDecl.sizeTokens v.size? ++ .mark .semicolon :: rest) =
      .ok (false, VarDecl.sizeTokens v.size? ++ .mark .semicolon :: rest) := by
    refine verdict_accept_of_not ?_
    cases v.size? <;> rfl
  rw [Decl.tokens, VarDecl.tokens, List.append_assoc, List.cons_append, List.append_assoc,
    List.singleton_append, verdict_declaration_typed, typedDecl,
    verdict_bind_ok (verdict_typeName ..), verdict_bind_ok (verdict_identifier ..),
    verdict_bind_ok hvariable]
  simp only [Bool.false_eq_true, if_false]
  rw [verdict_bind_ok (verdict_variableRest ..), verdict_pure]
  exact (within_zero _).symm

/-- A function without a body. -/
theorem prototype (t : TypeName) (name : String) (fs : List Formal) :
    DeclReadBack (.prototype t name fs) := by
  intro room rest
  rw [Decl.tokens, List.append_assoc, verdict_signature, functionRest, verdict_bind,
    List.singleton_append, verdict_accept, ok_bind]
  simp [Decl.demand]

/-- A function with a body; the body opens no level by itself. -/
theorem function (t : TypeName) (name : String) (fs : List Formal) {body : Block}
    (h : BlockReadBack body) : DeclReadBack (.function t name fs body) := by
  intro room rest
  have hbody : (accept .semicolon).verdict
      (.mark .lcurly :: (body.contents ++ .mark .rcurly :: rest)) =
      .ok (false, .mark .lcurly :: (body.contents ++ .mark .rcurly :: rest)) :=
    verdict_accept_of_not rfl
  rw [Decl.tokens, List.append_assoc, verdict_signature, Block.tokens_eq, List.cons_append,
    List.append_assoc, List.singleton_append, functionRest, verdict_bind_ok hbody]
  simp only [Bool.false_eq_true, if_false]
  rw [verdict_bind_ok (verdict_expect ..), verdict_bind_within (h ..),
    verdict_bind_ok (verdict_expect ..), verdict_pure, Decl.demand]

/-- A struct, which is recognised by the brace behind its name. -/
theorem struct (name : String) (fields : List VarDecl) : DeclReadBack (.struct name fields) := by
  intro room rest
  have hstruct : (declaration room).verdict ((Decl.struct name fields).tokens ++ rest) =
      structRest.verdict (.ident name :: .mark .lcurly :: (fields.flatMap VarDecl.tokens ++
        .mark .rcurly :: .mark .semicolon :: rest)) := by
    simp only [Decl.tokens, List.cons_append, List.append_assoc, List.nil_append]
    rfl
  have hclose : startsType (.mark .rcurly :: .mark .semicolon :: rest) = false := rfl
  rw [hstruct, structRest, verdict_bind_ok (verdict_identifier ..),
    verdict_bind_ok (verdict_expect ..), verdict_bind_ok (verdict_varDecls fields hclose ..),
    verdict_bind_ok (verdict_expect ..), verdict_bind_ok (verdict_expect ..), verdict_pure]
  exact (within_zero _).symm

end DeclReadBack

/-- Every declaration that keeps to the precedence of its operators is read back. -/
theorem declReadBack {d : Decl} (h : d.isCanonical = true) : DeclReadBack d := by
  cases d with
  | var v => exact .var v
  | prototype t name fs => exact .prototype t name fs
  | function t name fs body => exact .function t name fs (blockReadBack body h)
  | struct name fields => exact .struct name fields

/-- Every program that keeps to the precedence of its operators is read back from its tokens, if
the levels that it needs fit in the room; else it is refused for its nesting. -/
theorem verdict_program {p : Program} (h : p.isCanonical = true) (room : Nat) :
    (program room).verdict p.tokens = within p.demand room (.ok (p, [])) := by
  have hdecls : (repeatWhile (!·.isEmpty) (declaration room)).verdict
      (p.decls.flatMap Decl.tokens ++ []) =
      within (largest Decl.demand p.decls) room (.ok (p.decls, [])) := by
    refine verdict_repeatWhile (fun _ => True) rfl trivial p.decls ?_
      (fun d _ => d.tokens_ne_nil) ?_
    · intro d _ mid
      refine ⟨?_, trivial⟩
      simp [d.tokens_ne_nil]
    · intro d hd mid _
      exact declReadBack (List.all_eq_true.mp h d hd) room mid
  rw [List.append_nil] at hdecls
  rw [program, Program.tokens, verdict_bind_within hdecls, verdict_pure, Program.demand]

end Parser

/-- A source with the tokens of a program that keeps to the precedence of its operators and does not
need too many levels spells that program. -/
theorem parse_of_demand_le {source : String} {p : Program} (hc : p.isCanonical = true)
    (h : tokenKinds? source = some p.tokens) (hd : p.demand ≤ maxNesting) :
    parse source = .ok p := by
  have hverdict := Parser.verdict_program hc maxNesting
  rw [Parser.within_of_le hd] at hverdict
  exact parse_of_program_ok h (Parser.verdict_eq_ok hverdict)

/-- A source with the tokens of a program that needs too many levels is refused for that reason. -/
theorem parse_of_lt_demand {source : String} {p : Program} (hc : p.isCanonical = true)
    (h : tokenKinds? source = some p.tokens) (hd : maxNesting < p.demand) :
    ∃ found position, parse source = .error ⟨.grammatical .nestingTooDeep found, position⟩ := by
  have hverdict := Parser.verdict_program hc maxNesting
  rw [Parser.within_of_lt hd] at hverdict
  obtain ⟨f, hf, hfault⟩ := Parser.verdict_eq_error hverdict
  obtain ⟨position, herror⟩ := parse_of_program_error h hf
  rw [hfault] at herror
  exact ⟨_, position, herror⟩

/-- On the tokens of a program that keeps to the precedence of its operators, `parse` gives the
program if the levels that it needs are not too many, and a fault of nesting if they are. -/
theorem parse_tokens {source : String} {p : Program} (hc : p.isCanonical = true)
    (h : tokenKinds? source = some p.tokens) :
    (parse source = .ok p ↔ p.demand ≤ maxNesting) ∧
      ((∃ found position, parse source = .error ⟨.grammatical .nestingTooDeep found, position⟩) ↔
        maxNesting < p.demand) := by
  by_cases hd : p.demand ≤ maxNesting
  · have hok := parse_of_demand_le hc h hd
    refine ⟨iff_of_true hok hd, iff_of_false ?_ (Nat.not_lt.mpr hd)⟩
    rintro ⟨found, position, herror⟩
    rw [hok] at herror
    cases herror
  · have hlt : maxNesting < p.demand := Nat.not_le.mp hd
    obtain ⟨found, position, herror⟩ := parse_of_lt_demand hc h hlt
    refine ⟨iff_of_false ?_ hd, iff_of_true ⟨found, position, herror⟩ hlt⟩
    intro hok
    rw [hok] at herror
    cases herror

/-- A function that assigns the `n`-fold negation of a variable. -/
def negations (n : Nat) : Program :=
  ⟨[.function .void "f" []
    ⟨[], [.assign ⟨.var "x", n.repeat (.unary .negate) (.place (.var "a"))⟩]⟩]⟩

/-- The source of `negations n`. -/
def negationsSource (n : Nat) : String :=
  "void f()\x7bx=" ++ String.ofList (List.replicate n '-') ++ "a;\x7d"

/-- The assigned value and 127 operands fill the room; the next operand has none. -/
theorem parse_tokens_negations :
    parse (negationsSource 127) = .ok (negations 127) ∧
      ∃ found position, parse (negationsSource 128) =
        .error ⟨.grammatical .nestingTooDeep found, position⟩ :=
  ⟨(parse_tokens (by decide +kernel) (by decide +kernel)).1.mpr (by decide +kernel),
    (parse_tokens (p := negations 128) (by decide +kernel) (by decide +kernel)).2.mpr
      (by decide +kernel)⟩

end SyntaxOutline
