import SyntaxOutline.Grammar.Session
import SyntaxOutline.Proofs.Grammar.ExpressionReads

/-!
# What the parsers of declarations and statements give

A program that the parser gives has the tokens that were taken for it, all of them; it keeps to the
precedence of its operators and needs no more levels of nesting than there was room for
(`program_reads`). `parse_ok` says the same of a source.

Blocks nest in statements and statements in blocks, one level of room for each block, so the proof
for blocks is by induction on the room.
-/

namespace SyntaxOutline

/-- A statement that does not need too many levels. -/
structure Stmt.Fits (room : Nat) (s : Stmt) : Prop where
  canonical : s.isCanonical = true
  demand : s.demand ≤ room

/-- The contents of a block that do not need too many levels. -/
structure Block.Fits (room : Nat) (b : Block) : Prop where
  canonical : b.isCanonical = true
  demand : b.demand ≤ room

/-- A block in its braces that does not need too many levels. -/
structure Block.FitsFull (room : Nat) (b : Block) : Prop where
  canonical : b.isCanonical = true
  demand : b.demand + 1 ≤ room

/-- A declaration that does not need too many levels. -/
structure Decl.Fits (room : Nat) (d : Decl) : Prop where
  canonical : d.isCanonical = true
  demand : d.demand ≤ room

/-- A program that does not need too many levels. -/
structure Program.Fits (room : Nat) (p : Program) : Prop where
  canonical : p.isCanonical = true
  demand : p.demand ≤ room

theorem Stmt.tokensAll_eq (ss : List Stmt) : Stmt.tokensAll ss = ss.flatMap Stmt.tokens := by
  induction ss with
  | nil => rfl
  | cons s ss ih => rw [Stmt.tokensAll, ih, List.flatMap_cons]

/-- The tokens between the braces of a block. -/
def Block.contents (b : Block) : List Token :=
  b.decls.flatMap VarDecl.tokens ++ b.stmts.flatMap Stmt.tokens

/-- A block is written as its contents in braces. -/
theorem Block.tokens_eq (b : Block) :
    b.tokens = .mark .lcurly :: (b.contents ++ [.mark .rcurly]) := by
  obtain ⟨decls, stmts⟩ := b
  rw [Block.tokens, Block.contents, Stmt.tokensAll_eq, List.append_assoc]

/-- No declaration is written as nothing, so the loop over declarations ends. -/
theorem Decl.tokens_ne_nil (d : Decl) : d.tokens ≠ [] := by
  cases d <;> simp [Decl.tokens, VarDecl.tokens, Decl.signatureTokens]

/-- A block fits if its statements do. -/
theorem Block.Fits.of_stmts {decls : List VarDecl} {stmts : List Stmt} {room : Nat}
    (h : ∀ s ∈ stmts, s.Fits room) : (Block.mk decls stmts).Fits room := by
  refine ⟨?_, ?_⟩
  · rw [Block.isCanonical, Stmt.areCanonical_iff]
    exact fun s hs => (h s hs).canonical
  · rw [Block.demand, Stmt.demandAll_eq, largest_le]
    exact fun s hs => (h s hs).demand

namespace Parser

/-! ## Types, variables and parameters -/

/-- What was taken for a type. -/
theorem typeName_ok {ts rest : List Token} {t : TypeName} (h : typeName ts = .ok (t, rest)) :
    ts = t.tokens ++ rest := by
  unfold typeName at h
  split at h
  iterate 5
    · cases h
      rfl
  · obtain ⟨name, hname, rfl⟩ := map_ok h
    rw [identifier_ok hname]
    rfl
  · exact absurd h fail_ne_ok

/-- What was taken for the size of an array. -/
theorem arraySize_ok {ts rest : List Token} {l : IntLiteral} (h : arraySize ts = .ok (l, rest)) :
    ts = .intLit l.text :: rest := by
  unfold arraySize at h
  split at h
  · cases h
    rfl
  · exact absurd h fail_ne_ok

/-- What was taken behind the name of a variable. -/
theorem variableRest_ok {type : TypeName} {name : String} {ts rest : List Token} {v : VarDecl}
    (h : variableRest type name ts = .ok (v, rest)) :
    ∃ size?, v = ⟨type, name, size?⟩ ∧
      ts = VarDecl.sizeTokens size? ++ .mark .semicolon :: rest := by
  obtain ⟨bracket, mid₁, hbracket, h₁⟩ := bind_ok h
  rcases accept_ok hbracket with ⟨rfl, hts⟩ | ⟨rfl, hts⟩
  · -- The size is a part that may be missing, so it ends in a `pure` of its own.
    obtain ⟨size, mid₂, hsize, h₂⟩ := bind_ok h₁
    obtain ⟨_, mid₃, hclose, h₃⟩ := bind_ok h₂
    obtain ⟨size?, mid₄, hsome, h₄⟩ := bind_ok h₃
    obtain ⟨rfl, rfl⟩ := pure_ok hsome
    obtain ⟨_, mid₅, hsemicolon, h₅⟩ := bind_ok h₄
    obtain ⟨rfl, rfl⟩ := pure_ok h₅
    refine ⟨some size, rfl, ?_⟩
    rw [hts, arraySize_ok hsize, expect_ok hclose, expect_ok hsemicolon]
    rfl
  · obtain ⟨size?, mid₂, hnone, h₂⟩ := bind_ok h₁
    obtain ⟨rfl, rfl⟩ := pure_ok hnone
    obtain ⟨_, mid₃, hsemicolon, h₃⟩ := bind_ok h₂
    obtain ⟨rfl, rfl⟩ := pure_ok h₃
    exact ⟨none, rfl, by rw [hts, expect_ok hsemicolon]; rfl⟩

/-- A variable has the tokens that were taken. -/
theorem varDecl_reads : varDecl.Reads VarDecl.tokens fun _ => True := by
  intro ts rest v h
  obtain ⟨type, mid₁, htype, h₁⟩ := bind_ok h
  obtain ⟨name, mid₂, hname, h₂⟩ := bind_ok h₁
  obtain ⟨size?, rfl, hsize⟩ := variableRest_ok h₂
  refine ⟨?_, trivial⟩
  rw [typeName_ok htype, identifier_ok hname, hsize]
  simp [VarDecl.tokens]

/-- So have variables, one after the other. -/
theorem varDecls_reads : varDecls.Reads (·.flatMap VarDecl.tokens) fun _ => True := by
  intro ts rest vs h
  exact ⟨(repeatWhile_reads (fun _ _ _ _ hv => varDecl_reads hv) h).1, trivial⟩

/-- A parameter has the tokens that were taken. -/
theorem formal_reads : formal.Reads Formal.tokens fun _ => True := by
  intro ts rest f h
  obtain ⟨type, mid₁, htype, h₁⟩ := bind_ok h
  obtain ⟨name, mid₂, hname, h₂⟩ := bind_ok h₁
  obtain ⟨rfl, rfl⟩ := pure_ok h₂
  refine ⟨?_, trivial⟩
  rw [typeName_ok htype, identifier_ok hname]
  simp [Formal.tokens]

/-- So have parameters, with the parenthesis that closes them. -/
theorem formals_reads :
    formals.Reads (separatedBy (.mark .comma) Formal.tokens · ++ [.mark .rparen]) fun _ => True := by
  intro ts rest fs h
  obtain ⟨fs', mid₁, hfs, h₁⟩ := bind_ok h
  obtain ⟨_, mid₂, hclose, h₂⟩ := bind_ok h₁
  obtain ⟨rfl, rfl⟩ := pure_ok h₂
  refine ⟨?_, trivial⟩
  rw [(separatedUntil_reads .rparen formal_reads hfs).1, expect_ok hclose, List.append_assoc,
    List.singleton_append]

/-! ## Statements -/

section Statement

variable {room : Nat}

/-- A condition is a full expression in parentheses. -/
theorem condition_ok {k : Keyword} {closing : Context} {ts rest : List Token} {c : Expr}
    (h : condition k closing room ts = .ok (c, rest)) :
    .keyword k :: ts = Stmt.conditionTokens k c ++ rest ∧ c.FitsFull room := by
  obtain ⟨_, mid₁, hopen, h₁⟩ := bind_ok h
  obtain ⟨c', mid₂, hc, h₂⟩ := bind_ok h₁
  obtain ⟨_, mid₃, hclose, h₃⟩ := bind_ok h₂
  obtain ⟨rfl, rfl⟩ := pure_ok h₃
  obtain ⟨hmid, hfits⟩ := expression_reads room hc
  refine ⟨?_, hfits⟩
  rw [expect_ok hopen, hmid, expect_ok hclose]
  simp [Stmt.conditionTokens]

/-- The start or the step of a loop, if there is one. -/
theorem unlessNext_assignment_ok {m : Mark} {ts rest : List Token} {a? : Option Assignment}
    (h : unlessNext m (assignment room) ts = .ok (a?, rest)) :
    ts = Assignment.tokens? a? ++ rest ∧ a?.all Assignment.isCanonical = true ∧
      largest? Assignment.demand a? ≤ room := by
  rcases unlessNext_ok h with ⟨rfl, rfl⟩ | ⟨a, rfl, ha⟩
  · exact ⟨rfl, rfl, Nat.zero_le _⟩
  · obtain ⟨hts, hfits⟩ := assignment_reads room ha
    exact ⟨hts, hfits.canonical, hfits.demand⟩

/-- What was taken behind the keyword of a return. -/
theorem returnRest_ok {ts rest : List Token} {s : Stmt} (h : returnRest room ts = .ok (s, rest)) :
    .keyword .return_ :: ts = s.tokens ++ rest ∧ s.Fits room := by
  obtain ⟨e?, mid₁, he, h₁⟩ := bind_ok h
  obtain ⟨_, mid₂, hsemicolon, h₂⟩ := bind_ok h₁
  obtain ⟨rfl, rfl⟩ := pure_ok h₂
  rcases unlessNext_ok he with ⟨rfl, hts⟩ | ⟨e, rfl, he'⟩
  · rw [hts, expect_ok hsemicolon]
    exact ⟨rfl, rfl, Nat.zero_le _⟩
  · obtain ⟨hts, hfits⟩ := expression_reads room he'
    rw [hts, expect_ok hsemicolon]
    refine ⟨by simp [Stmt.tokens, Expr.tokens?], ?_, ?_⟩
    · rw [Stmt.isCanonical]
      exact hfits.canonical
    · rw [Stmt.demand]
      exact hfits.demand

/-- What was taken behind the parenthesis of a call. -/
theorem callRest_ok {name : String} {ts rest : List Token} {s : Stmt}
    (h : callRest name room ts = .ok (s, rest)) :
    .ident name :: .mark .lparen :: ts = s.tokens ++ rest ∧ s.Fits room := by
  obtain ⟨es, mid₁, hes, h₁⟩ := bind_ok h
  obtain ⟨_, mid₂, hsemicolon, h₂⟩ := bind_ok h₁
  obtain ⟨rfl, rfl⟩ := pure_ok h₂
  obtain ⟨hts, hall⟩ := arguments_reads (expression_reads room) hes
  rw [hts, expect_ok hsemicolon]
  have hfits : (Expr.call name es).Fits 0 room := .call hall
  refine ⟨by simp [Stmt.tokens, Expr.tokens], ?_, ?_⟩
  · have := hfits.canonical
    rwa [Expr.isCanonical] at this
  · have := hfits.demand
    rwa [Expr.demand] at this

/-- An assignment as a statement. -/
theorem assignStmt_reads : (assignStmt room).Reads Stmt.tokens (Stmt.Fits room) := by
  intro ts rest s h
  obtain ⟨a, mid₁, ha, h₁⟩ := bind_ok h
  obtain ⟨_, mid₂, hsemicolon, h₂⟩ := bind_ok h₁
  obtain ⟨rfl, rfl⟩ := pure_ok h₂
  obtain ⟨hts, hfits⟩ := assignment_reads room ha
  rw [hts, expect_ok hsemicolon]
  refine ⟨by simp [Stmt.tokens], ?_, ?_⟩
  · rw [Stmt.isCanonical]
    exact hfits.canonical
  · rw [Stmt.demand]
    exact hfits.demand

/-- A statement is read when the blocks in it are. -/
theorem statement_reads_of_block
    (hblock : ∀ context, (block context room).Reads Block.tokens (Block.FitsFull room)) :
    (statement room).Reads Stmt.tokens (Stmt.Fits room) := by
  intro ts rest s h
  unfold statement at h
  split at h
  · exact returnRest_ok h
  · -- A condition: the keyword behind the body decides whether there is an alternative.
    obtain ⟨c, mid₁, hc, h₁⟩ := bind_ok h
    obtain ⟨body, mid₂, hbody, h₂⟩ := bind_ok h₁
    obtain ⟨else?, mid₃, helse, h₃⟩ := bind_ok h₂
    obtain ⟨hts, hcf⟩ := condition_ok hc
    obtain ⟨hmid, hbf⟩ := hblock _ hbody
    rcases acceptKeyword_ok helse with ⟨rfl, hmid₂⟩ | ⟨rfl, hmid₂⟩
    · obtain ⟨other, mid₄, hother, h₄⟩ := bind_ok h₃
      obtain ⟨rfl, rfl⟩ := pure_ok h₄
      obtain ⟨hmid₃, hof⟩ := hblock _ hother
      refine ⟨by rw [hts, hmid, hmid₂, hmid₃]; simp [Stmt.tokens], ?_, ?_⟩
      · simp [Stmt.isCanonical, hcf.canonical, hbf.canonical, hof.canonical]
      · exact Nat.max_le.mpr ⟨hcf.demand, Nat.max_le.mpr ⟨hbf.demand, hof.demand⟩⟩
    · obtain ⟨rfl, rfl⟩ := pure_ok h₃
      refine ⟨by rw [hts, hmid, hmid₂]; simp [Stmt.tokens], ?_, ?_⟩
      · simp [Stmt.isCanonical, hcf.canonical, hbf.canonical]
      · exact Nat.max_le.mpr ⟨hcf.demand, hbf.demand⟩
  · -- A loop with a condition alone.
    obtain ⟨c, mid₁, hc, h₁⟩ := bind_ok h
    obtain ⟨body, mid₂, hbody, h₂⟩ := bind_ok h₁
    obtain ⟨rfl, rfl⟩ := pure_ok h₂
    obtain ⟨hts, hcf⟩ := condition_ok hc
    obtain ⟨hmid, hbf⟩ := hblock _ hbody
    refine ⟨by rw [hts, hmid]; simp [Stmt.tokens], ?_, ?_⟩
    · simp [Stmt.isCanonical, hcf.canonical, hbf.canonical]
    · exact Nat.max_le.mpr ⟨hcf.demand, hbf.demand⟩
  · -- A loop whose start and step may be missing.
    obtain ⟨_, mid₁, hopen, h₁⟩ := bind_ok h
    obtain ⟨start?, mid₂, hstart, h₂⟩ := bind_ok h₁
    obtain ⟨_, mid₃, hfirst, h₃⟩ := bind_ok h₂
    obtain ⟨c, mid₄, hc, h₄⟩ := bind_ok h₃
    obtain ⟨_, mid₅, hsecond, h₅⟩ := bind_ok h₄
    obtain ⟨step?, mid₆, hstep, h₆⟩ := bind_ok h₅
    obtain ⟨_, mid₇, hclose, h₇⟩ := bind_ok h₆
    obtain ⟨body, mid₈, hbody, h₈⟩ := bind_ok h₇
    obtain ⟨rfl, rfl⟩ := pure_ok h₈
    obtain ⟨hmid₁, hsc, hsd⟩ := unlessNext_assignment_ok hstart
    obtain ⟨hmid₃, hcf⟩ := expression_reads room hc
    obtain ⟨hmid₅, htc, htd⟩ := unlessNext_assignment_ok hstep
    obtain ⟨hmid₇, hbf⟩ := hblock _ hbody
    refine ⟨?_, ?_, ?_⟩
    · rw [expect_ok hopen, hmid₁, expect_ok hfirst, hmid₃, expect_ok hsecond, hmid₅,
        expect_ok hclose, hmid₇]
      simp [Stmt.tokens]
    · simp [Stmt.isCanonical, hsc, hcf.canonical, htc, hbf.canonical]
    · rw [Stmt.demand]
      exact Nat.max_le.mpr ⟨hsd, Nat.max_le.mpr ⟨hcf.demand, Nat.max_le.mpr ⟨htd, hbf.demand⟩⟩⟩
  · exact callRest_ok h
  · exact assignStmt_reads h
  · exact absurd h fail_ne_ok

/-- The contents of a block, given its statements with the same room. -/
theorem blockContents_reads_of_statement
    (hstmt : (statement room).Reads Stmt.tokens (Stmt.Fits room)) :
    (blockContents room).Reads Block.contents (Block.Fits room) := by
  intro ts rest b h
  rw [blockContents] at h
  obtain ⟨decls, mid₁, hdecls, h₁⟩ := bind_ok h
  obtain ⟨stmts, mid₂, hstmts, h₂⟩ := bind_ok h₁
  obtain ⟨rfl, rfl⟩ := pure_ok h₂
  have hround : ∀ ⦃ts rest : List Token⦄ ⦃s : Stmt⦄, insideBlock ts = true →
      blockStmt room ts = .ok (s, rest) → ts = s.tokens ++ rest ∧ s.Fits room := by
    intro ts rest s _ hs
    unfold blockStmt at hs
    split at hs
    · exact absurd hs fail_ne_ok
    · exact hstmt hs
  obtain ⟨hmid, hall⟩ := repeatWhile_reads hround hstmts
  refine ⟨?_, .of_stmts hall⟩
  rw [(varDecls_reads hdecls).1, hmid, Block.contents, List.append_assoc]

end Statement

/-- A block opens a level, so the induction is on the room, from blocks to statements and back. -/
theorem block_reads (room : Nat) (context : Context) :
    (block context room).Reads Block.tokens (Block.FitsFull room) := by
  induction room generalizing context with
  | zero =>
    intro ts rest b h
    rw [block] at h
    obtain ⟨_, mid₁, _, h₁⟩ := bind_ok h
    exact absurd h₁ fail_ne_ok
  | succ room ih =>
    intro ts rest b h
    rw [block] at h
    obtain ⟨_, mid₁, hopen, h₁⟩ := bind_ok h
    obtain ⟨b', mid₂, hb, h₂⟩ := bind_ok h₁
    obtain ⟨_, mid₃, hclose, h₃⟩ := bind_ok h₂
    obtain ⟨rfl, rfl⟩ := pure_ok h₃
    obtain ⟨hmid, hfits⟩ :=
      blockContents_reads_of_statement (statement_reads_of_block ih) hb
    refine ⟨?_, hfits.canonical, Nat.succ_le_succ hfits.demand⟩
    rw [expect_ok hopen, hmid, expect_ok hclose, Block.tokens_eq]
    simp

/-- The contents of a block, with any room. -/
theorem blockContents_reads (room : Nat) :
    (blockContents room).Reads Block.contents (Block.Fits room) :=
  blockContents_reads_of_statement (statement_reads_of_block (block_reads room))

/-! ## Declarations -/

/-- What was taken behind the parameters of a function. -/
theorem functionRest_ok {type : TypeName} {name : String} {formals : List Formal} {room : Nat}
    {ts rest : List Token} {d : Decl}
    (h : functionRest type name formals room ts = .ok (d, rest)) :
    Decl.signatureTokens type name formals ++ ts = d.tokens ++ rest ∧ d.Fits room := by
  obtain ⟨semicolon, mid₁, hsemicolon, h₁⟩ := bind_ok h
  rcases accept_ok hsemicolon with ⟨rfl, hts⟩ | ⟨rfl, hts⟩
  · obtain ⟨rfl, rfl⟩ := pure_ok h₁
    exact ⟨by rw [hts]; simp [Decl.tokens], rfl, Nat.zero_le _⟩
  · -- The body of a function opens no level by itself.
    obtain ⟨_, mid₂, hopen, h₂⟩ := bind_ok h₁
    obtain ⟨body, mid₃, hbody, h₃⟩ := bind_ok h₂
    obtain ⟨_, mid₄, hclose, h₄⟩ := bind_ok h₃
    obtain ⟨rfl, rfl⟩ := pure_ok h₄
    obtain ⟨hmid, hfits⟩ := blockContents_reads room hbody
    refine ⟨?_, hfits.canonical, hfits.demand⟩
    rw [hts, expect_ok hopen, hmid, expect_ok hclose]
    simp [Decl.tokens, Block.tokens_eq]

/-- A declaration that starts with a type. -/
theorem typedDecl_reads (room : Nat) : (typedDecl room).Reads Decl.tokens (Decl.Fits room) := by
  intro ts rest d h
  obtain ⟨type, mid₁, htype, h₁⟩ := bind_ok h
  obtain ⟨name, mid₂, hname, h₂⟩ := bind_ok h₁
  obtain ⟨paren, mid₃, hparen, h₃⟩ := bind_ok h₂
  rw [typeName_ok htype, identifier_ok hname]
  rcases accept_ok hparen with ⟨rfl, hmid⟩ | ⟨rfl, hmid⟩
  · obtain ⟨fs, mid₄, hfs, h₄⟩ := bind_ok h₃
    obtain ⟨hrest, hfits⟩ := functionRest_ok h₄
    refine ⟨?_, hfits⟩
    rw [hmid, (formals_reads hfs).1, ← hrest]
    simp [Decl.signatureTokens]
  · obtain ⟨v, mid₄, hv, h₄⟩ := bind_ok h₃
    obtain ⟨rfl, rfl⟩ := pure_ok h₄
    obtain ⟨size?, rfl, hsize⟩ := variableRest_ok hv
    refine ⟨?_, rfl, Nat.zero_le _⟩
    rw [hmid, hsize]
    simp [Decl.tokens, VarDecl.tokens]

/-- The rest of a struct whose opening brace is known to stand behind the name. -/
theorem structRest_ok {second : Token} {ts rest : List Token} {d : Decl}
    (h : structRest (second :: .mark .lcurly :: ts) = .ok (d, rest)) :
    .keyword .struct :: second :: .mark .lcurly :: ts = d.tokens ++ rest ∧
      ∃ name fields, d = .struct name fields := by
  obtain ⟨name, mid₁, hname, h₁⟩ := bind_ok h
  obtain ⟨_, mid₂, hopen, h₂⟩ := bind_ok h₁
  obtain ⟨fields, mid₃, hfields, h₃⟩ := bind_ok h₂
  obtain ⟨_, mid₄, hclose, h₄⟩ := bind_ok h₃
  obtain ⟨_, mid₅, hsemicolon, h₅⟩ := bind_ok h₄
  obtain ⟨rfl, rfl⟩ := pure_ok h₅
  have hid := identifier_ok hname
  simp only [List.cons.injEq] at hid
  obtain ⟨rfl, rfl⟩ := hid
  have hbrace := expect_ok hopen
  simp only [List.cons.injEq, true_and] at hbrace
  refine ⟨?_, name, fields, rfl⟩
  rw [hbrace, (varDecls_reads hfields).1, expect_ok hclose, expect_ok hsemicolon]
  simp [Decl.tokens]

/-- A declaration that was read has the tokens that were taken, keeps to the precedence of its
operators, and had the levels that it needs. -/
theorem declaration_reads (room : Nat) :
    (declaration room).Reads Decl.tokens (Decl.Fits room) := by
  intro ts rest d h
  unfold declaration at h
  split at h
  · obtain ⟨hts, name, fields, rfl⟩ := structRest_ok h
    exact ⟨hts, rfl, Nat.zero_le _⟩
  · exact typedDecl_reads room h

/-- A declaration takes a token, so the loop over declarations makes progress. -/
theorem length_lt_of_declaration {room : Nat} {ts rest : List Token} {d : Decl}
    (h : declaration room ts = .ok (d, rest)) : rest.length < ts.length := by
  have hts := (declaration_reads room h).1
  have hpos := List.length_pos_iff.mpr d.tokens_ne_nil
  rw [hts, List.length_append]
  omega

/-- The parser of programs takes all tokens, and they are those of the program. -/
theorem program_ok {room : Nat} {ts rest : List Token} {p : Program}
    (h : program room ts = .ok (p, rest)) : ts = p.tokens ∧ rest = [] ∧ p.Fits room := by
  obtain ⟨ds, mid, hds, h₁⟩ := bind_ok h
  obtain ⟨rfl, rfl⟩ := pure_ok h₁
  obtain ⟨hts, hall⟩ := repeatWhile_reads (fun _ _ _ _ hd => declaration_reads room hd) hds
  -- Every declaration takes something, so the repetition stops only where no token is left.
  have hmid : mid = [] := by
    have := repeatWhile_rest (fun _ _ _ hd => length_lt_of_declaration hd) hds
    simpa using this
  rw [hmid, List.append_nil] at hts
  refine ⟨hts, hmid, ?_, ?_⟩
  · simp only [Program.isCanonical, List.all_eq_true]
    exact fun d hd => (hall d hd).canonical
  · rw [Program.demand, largest_le]
    exact fun d hd => (hall d hd).demand

end Parser

/-- The tokens of a source without their positions, if all of it can be read. -/
def tokenKinds? (source : String) : Option (List Token) :=
  (tokensOf source).toOption.map fun list => list.tokens.map (·.token)

/-- The token kinds of a source are those of its tokens. -/
theorem tokenKinds?_eq_some {source : String} {ts : List Token} (h : tokenKinds? source = some ts) :
    ∃ list, tokensOf source = .ok list ∧ list.tokens.map (·.token) = ts := by
  unfold tokenKinds? at h
  cases hlist : tokensOf source with
  | error e =>
    rw [hlist] at h
    cases h
  | ok list =>
    rw [hlist] at h
    cases h
    exact ⟨list, rfl, rfl⟩

/-- `parse` gives the program that the parser reads on the token kinds. -/
theorem parse_of_program_ok {source : String} {ts rest : List Token} {p : Program}
    (hts : tokenKinds? source = some ts) (h : Parser.program maxNesting ts = .ok (p, rest)) :
    parse source = .ok p := by
  obtain ⟨list, hlist, rfl⟩ := tokenKinds?_eq_some hts
  simp only [parse, Session.ofSource, hlist, Session.run, Session.ofTokens, h]

/-- `parse` fails with the fault that the parser has on the token kinds. -/
theorem parse_of_program_error {source : String} {ts : List Token} {f : Failure}
    (hts : tokenKinds? source = some ts) (h : Parser.program maxNesting ts = .error f) :
    ∃ position, parse source = .error ⟨.grammatical f.fault f.rest.head?, position⟩ := by
  obtain ⟨list, hlist, rfl⟩ := tokenKinds?_eq_some hts
  simp only [parse, Session.ofSource, hlist, Session.run, Session.ofTokens, h]
  exact ⟨_, rfl⟩

/-- A source that is parsed has the tokens of the program that it spells. -/
theorem parse_ok {source : String} {p : Program} (h : parse source = .ok p) :
    tokenKinds? source = some p.tokens ∧ p.Fits maxNesting := by
  cases hlist : tokensOf source with
  | error e =>
    simp only [parse, Session.ofSource, hlist] at h
    cases h
  | ok list =>
    have hts : tokenKinds? source = some (list.tokens.map (·.token)) := by
      rw [tokenKinds?, hlist]
      rfl
    cases hp : Parser.program maxNesting (list.tokens.map (·.token)) with
    | ok r =>
      have hr := parse_of_program_ok hts hp
      rw [h] at hr
      cases hr
      obtain ⟨htokens, -, hfits⟩ := Parser.program_ok hp
      exact ⟨by rw [hts, htokens], hfits⟩
    | error f =>
      obtain ⟨position, herror⟩ := parse_of_program_error hts hp
      rw [h] at herror
      cases herror

end SyntaxOutline
