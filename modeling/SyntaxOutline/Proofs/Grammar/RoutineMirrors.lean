import SyntaxOutline.Proofs.Grammar.CursorMirrors
import SyntaxOutline.Proofs.Grammar.ProgramFollows
import SyntaxOutline.Proofs.Grammar.ProgramReads

/-!
# Every routine mirrors its parser

With `room` levels left to open, a routine does with a cursor what its parser does with that room.
The recursion is that of the parsers: among the routines for expressions one that calls back has
opened a level, and so has a statement inside a block. The loops end because each round takes a
token.
-/

namespace SyntaxOutline

namespace Routine

variable {α : Type} {list : TokenList} {room : Nat}

/-- A routine does what its parser does, when the levels that are open and the room make up all the
levels there may be. -/
def Mirrored (list : TokenList) (r : Routine α) (room : Nat) : Prop :=
  ∀ depth, room + depth = maxNesting →
    Mirrors list (r.perform list) (r.parser room) depth depth

/-- A routine on a level of its own. Without room for the level both sides refuse the next token. -/
theorem nested_mirrored {r : Routine α} (h : ∀ left, room = left + 1 → r.Mirrored list left) :
    (nested r).Mirrored list room := by
  intro depth hdepth
  cases room with
  | zero =>
    rw [perform]
    exact .full (by omega)
  | succ room => exact .nested (h room rfl (depth + 1) (by omega)) (by omega)

/-! ## Declarations of variables -/

/-- Types: the next token decides, and only a struct has a second one. -/
theorem typeName_mirrored : typeName.Mirrored list room := by
  intro depth _
  rw [perform]
  show Mirrors list _ Parser.typeName depth depth
  refine .of_next (fun i hi hts => (Mirrors.refuse .missingType).stays hi hts)
    fun i t rest hi hts => ?_
  have single : ∀ type : TypeName, Agree list i depth depth (.ok (type, rest))
      ((Machine.advance list >>= fun _ => (pure type : Machine TypeName)) ⟨i, depth⟩) :=
    fun type => Mirrors.taken (p := pure type) (fun _ => .pure type) hi hts
  cases t with
  | keyword k =>
    cases k with
    | int => exact single .int
    | bool => exact single .bool
    | double => exact single .double
    | void => exact single .void
    | char => exact single .char
    | struct =>
      refine Mirrors.taken (p := TypeName.struct <$> Parser.identifier) (fun _ => ?_) hi hts
      rw [map_eq_pure_bind]
      exact Mirrors.identifier.returns TypeName.struct
    | _ => exact (Mirrors.refuse .missingType).stays hi hts
  | _ => exact (Mirrors.refuse .missingType).stays hi hts

/-- What follows the name of a variable. -/
theorem variableRest_mirrored (type : TypeName) (name : String) :
    (variableRest type name).Mirrored list room := by
  intro depth _
  rw [perform]
  have hend : ∀ size?, Mirrors list
      (Machine.expect list .semicolon .afterVariable >>= fun _ =>
        pure (VarDecl.mk type name size?))
      (Parser.expect .semicolon .afterVariable >>= fun _ => pure (VarDecl.mk type name size?))
      depth depth :=
    fun size? => (Mirrors.expect .semicolon _).returns fun _ => VarDecl.mk type name size?
  refine (Mirrors.accept .lbracket).bind fun sized => ?_
  cases sized with
  | true =>
    exact Mirrors.arraySize.bind fun size => (Mirrors.expect .rbracket _).bind fun _ =>
      (Mirrors.pure (some size)).bind hend
  | false => exact (Mirrors.pure none).bind hend

theorem varDecl_mirrored : varDecl.Mirrored list room := by
  intro depth hdepth
  rw [perform]
  exact (typeName_mirrored depth hdepth).bind fun type => Mirrors.identifier.bind fun name =>
    variableRest_mirrored type name depth hdepth

/-- Any number of variables. Each takes a token, so the loop of the machine ends. -/
theorem varDecls_mirrored : varDecls.Mirrored list room := by
  intro depth hdepth
  refine .loop _ (by conv => lhs; rw [perform]) (fun ts => ?_) (varDecl_mirrored depth hdepth) ?_
  · cases ts <;> rfl
  · intro ts rest decl _ h
    obtain ⟨rfl, -⟩ := Parser.varDecl_reads h
    simp only [VarDecl.tokens, List.length_append, List.length_cons]
    omega

/-! ## Parameters and structs -/

theorem formal_mirrored : formal.Mirrored list room := by
  intro depth hdepth
  rw [perform]
  exact (typeName_mirrored depth hdepth).bind fun type =>
    Mirrors.identifier.returns fun name => Formal.mk type name

/-- What follows a comma has been taken with it. -/
theorem length_lt_of_comma {p : Parser α} {tokens : α → List Token} {good : α → Prop}
    (hp : p.Reads tokens good) {ts rest : List Token} {a : α}
    (hnext : Parser.isNext .comma ts = true)
    (h : (Parser.accept .comma >>= fun _ => p) ts = .ok (a, rest)) : rest.length < ts.length := by
  obtain ⟨_, mid, hcomma, h⟩ := Parser.bind_ok h
  rw [Parser.accept_of_isNext hnext hcomma, (hp h).1, List.length_cons, List.length_append]
  omega

/-- Further parameters, each behind a comma, which is a token that is taken. -/
theorem moreFormals_mirrored : moreFormals.Mirrored list room := by
  intro depth hdepth
  refine .loop (· = some (.mark .comma)) ?_ (Mirrors.isNext_head .comma)
    ((Mirrors.accept .comma).bind fun _ => formal_mirrored depth hdepth)
    fun ts rest a => length_lt_of_comma Parser.formal_reads
  conv => lhs; rw [perform]
  simp only [bind_assoc]
  rfl

/-- All parameters, with the parenthesis that closes them. -/
theorem formals_mirrored : formals.Mirrored list room := by
  intro depth hdepth
  rw [perform]
  exact (Mirrors.separatedUntil .rparen (formal_mirrored depth hdepth)
    (moreFormals_mirrored depth hdepth)).bind fun fs =>
    (Mirrors.expect .rparen _).returns fun _ => fs

/-- What follows the keyword of a struct. -/
theorem structRest_mirrored : structRest.Mirrored list room := by
  intro depth hdepth
  rw [perform]
  exact Mirrors.identifier.bind fun name => (Mirrors.expect .lcurly _).bind fun _ =>
    (varDecls_mirrored depth hdepth).bind fun fields => (Mirrors.expect .rcurly _).bind fun _ =>
    (Mirrors.expect .semicolon _).returns fun _ => Decl.struct name fields

/-! ## Expressions -/

/-- What follows the keyword for sizes. -/
theorem sizeofOperand_mirrored : sizeofOperand.Mirrored list room := by
  intro depth _
  rw [perform]
  exact (Mirrors.expect .lparen _).bind fun _ => Mirrors.identifier.bind fun name =>
    (Mirrors.expect .rparen _).returns fun _ => Expr.sizeof name

/-- What the routines for expressions mirror with a given room. The loops that fold a chain or the
indices and fields of a place close the levels above `base`. -/
structure MirroredWith (list : TokenList) (room : Nat) : Prop where
  expression : expression.Mirrored list room
  operand (level : Level) : (operand level).Mirrored list room
  chain (level : Level) (base : Nat) (left : Expr) (depth : Nat) (hbase : base ≤ maxNesting)
    (hdepth : room + depth = maxNesting) :
    Mirrors list (list.chain level base left) (Parser.chain level room left) depth base
  unary : unary.Mirrored list room
  suffixes (base : Nat) (place : Place) (depth : Nat) (hbase : base ≤ maxNesting)
    (hdepth : room + depth = maxNesting) :
    Mirrors list (list.suffixes base place) (Parser.suffixes room place) depth base

section Step

/-- A level of the grammar, given its operands and its chains. -/
theorem binary_mirrored {level : Level} (hoperand : (operand level).Mirrored list room)
    (hchain : ∀ base left depth, base ≤ maxNesting → room + depth = maxNesting →
      Mirrors list (list.chain level base left) (Parser.chain level room left) depth base) :
    (binary level).Mirrored list room := by
  intro depth hdepth i hi
  rw [perform, Machine.get_bind]
  show Agree _ _ _ _ (Parser.binary level room _) _
  rw [Parser.binary]
  exact (hoperand depth hdepth).bind (fun left => hchain depth left depth hi.2 hdepth) i hi

/-- A full expression opens a level, so it rests on the level of room below. -/
theorem expression_mirrored_step (prev : ∀ r, room = r + 1 → MirroredWith list r) :
    expression.Mirrored list room := by
  have hnested : (nested (.binary .bitOr)).Mirrored list room :=
    nested_mirrored fun left hleft =>
      binary_mirrored ((prev left hleft).operand .bitOr) ((prev left hleft).chain .bitOr)
  have hparser : (nested (.binary .bitOr)).parser room = Parser.expression room := by
    cases room <;> rw [Parser.expression] <;> rfl
  intro depth hdepth
  rw [perform]
  show Mirrors list _ (Parser.expression room) depth depth
  rw [← hparser]
  exact hnested depth hdepth

/-- A chain. The machine keeps the depth where the chain began and closes all its levels at the end,
where the parser only forgets its smaller room. -/
theorem chain_mirrored_step (prev : ∀ r, room = r + 1 → MirroredWith list r) (level : Level)
    (base : Nat) (left : Expr) (depth : Nat) (hbase : base ≤ maxNesting)
    (hdepth : room + depth = maxNesting) :
    Mirrors list (list.chain level base left) (Parser.chain level room left)
      depth base := by
  rw [TokenList.chain, Parser.chain]
  refine (Mirrors.operator? level).bind fun op? => ?_
  cases op? with
  | none => exact .closed left hbase
  | some op =>
    cases room with
    | zero => exact .full (by omega)
    | succ room =>
      have hprev := prev room rfl
      refine .opened ?_ (by omega)
      exact (hprev.operand level (depth + 1) (by omega)).bind fun right =>
        hprev.chain level base _ (depth + 1) hbase (by omega)

/-- The indices and fields of a place, with levels that are closed at the end like those of a
chain. -/
theorem suffixes_mirrored_step (prev : ∀ r, room = r + 1 → MirroredWith list r) (base : Nat)
    (place : Place) (depth : Nat) (hbase : base ≤ maxNesting) (hdepth : room + depth = maxNesting) :
    Mirrors list (list.suffixes base place) (Parser.suffixes room place) depth base := by
  -- Whatever ends the place, the machine goes back to the depth where it began.
  have hclosed : Mirrors list (Machine.closeTo list base >>= fun _ => pure place) (pure place)
      depth base := .closed place hbase
  rw [TokenList.suffixes]
  refine .of_next (fun i hi hts => ?_) fun i t rest hi hts => ?_
  · rw [Parser.suffixes]
    · exact hclosed.stays hi hts
    · simp
    · simp
  by_cases hbracket : t = .mark .lbracket
  · subst hbracket
    cases room with
    -- There is no level left, and the bracket is not taken.
    | zero =>
      rw [Parser.suffixes]
      exact (Mirrors.full (by omega)).stays hi hts
    | succ room =>
      have hprev := prev room rfl
      rw [Parser.suffixes]
      refine Mirrors.opened_taken (fun _ => ?_) (by omega) hi.1 hts
      exact (hprev.expression (depth + 1) (by omega)).bind fun index =>
        (Mirrors.expect .rbracket _).bind fun _ =>
        hprev.suffixes base _ (depth + 1) hbase (by omega)
  by_cases hdot : t = .mark .dot
  · subst hdot
    cases room with
    | zero =>
      rw [Parser.suffixes]
      exact (Mirrors.full (by omega)).stays hi hts
    | succ room =>
      rw [Parser.suffixes]
      refine Mirrors.opened_taken (fun _ => ?_) (by omega) hi.1 hts
      exact Mirrors.identifier.bind fun name =>
        (prev room rfl).suffixes base _ (depth + 1) hbase (by omega)
  · rw [Parser.suffixes]
    · cases t with
      | mark n =>
        cases n with
        | lbracket => exact absurd rfl hbracket
        | dot => exact absurd rfl hdot
        | _ => exact hclosed.stays hi hts
      | _ => exact hclosed.stays hi hts
    · exact fun rest h => hbracket (List.cons.inj h).1
    · exact fun rest h => hdot (List.cons.inj h).1

/-- What stands in parentheses. -/
theorem bounded_mirrored (hexpr : expression.Mirrored list room) : bounded.Mirrored list room := by
  intro depth hdepth
  rw [perform]
  show Mirrors list _ (Parser.bounded room) depth depth
  rw [Parser.bounded]
  exact (hexpr depth hdepth).bind fun inner => (Mirrors.expect .rparen _).returns fun _ =>
    Expr.bounded inner

/-- Further arguments, each behind a comma. -/
theorem moreArguments_mirrored (hexpr : expression.Mirrored list room) :
    moreArguments.Mirrored list room := by
  intro depth hdepth
  refine .loop (· = some (.mark .comma)) ?_ (Mirrors.isNext_head .comma)
    ((Mirrors.accept .comma).bind fun _ => hexpr depth hdepth)
    fun ts rest a => length_lt_of_comma (Parser.expression_reads room)
  conv => lhs; rw [perform]
  simp only [bind_assoc]
  rfl

/-- All arguments, with the parenthesis that closes them. -/
theorem arguments_mirrored (hexpr : expression.Mirrored list room) :
    arguments.Mirrored list room := by
  intro depth hdepth
  rw [perform]
  show Mirrors list _ (Parser.arguments room) depth depth
  rw [Parser.arguments]
  exact (Mirrors.separatedUntil .rparen (hexpr depth hdepth)
    (moreArguments_mirrored hexpr depth hdepth)).bind fun args =>
    (Mirrors.expect .rparen _).returns fun _ => args

/-- An operator in front of an operand opens a level for it. -/
theorem unary_mirrored_step (prev : ∀ r, room = r + 1 → MirroredWith list r)
    (hterm : term.Mirrored list room) : unary.Mirrored list room := by
  have hnested : (nested .unary).Mirrored list room :=
    nested_mirrored fun left hleft => (prev left hleft).unary
  intro depth hdepth
  rw [perform]
  show Mirrors list _ (Parser.unary room) depth depth
  rw [Parser.unary]
  refine Mirrors.unaryOperator?.bind fun op? => ?_
  cases op? with
  | none => exact hterm depth hdepth
  | some op =>
    have h := (hnested depth hdepth).returns (Expr.unary op)
    cases room with
    | zero => exact h
    | succ room => exact h

/-- From the tightest level on, an operand is a chain of the next tighter level. -/
theorem operand_mirrored_step
    (hchain : ∀ level base left depth, base ≤ maxNesting → room + depth = maxNesting →
      Mirrors list (list.chain level base left) (Parser.chain level room left) depth base)
    (hunary : unary.Mirrored list room) (level : Level) : (operand level).Mirrored list room := by
  intro depth hdepth
  rw [perform]
  show Mirrors list _ (Parser.operand level room) depth depth
  cases h : level.tighter? with
  | none =>
    rw [Parser.operand_eq_unary h]
    exact hunary depth hdepth
  | some tighter =>
    have hlt := Level.rank_lt_of_tighter? h
    rw [Parser.operand_eq_binary h]
    exact binary_mirrored (operand_mirrored_step hchain hunary tighter) (hchain tighter) depth
      hdepth
termination_by level.rank

/-- A place: a name and what follows it. -/
theorem place_mirrored
    (hsuffixes : ∀ base place depth, base ≤ maxNesting → room + depth = maxNesting →
      Mirrors list (list.suffixes base place) (Parser.suffixes room place) depth base) :
    place.Mirrored list room := by
  intro depth hdepth i hi
  rw [perform, Machine.get_bind]
  exact Mirrors.identifier.bind (fun name => hsuffixes depth (.var name) depth hi.2 hdepth) i hi

/-- Operands without operators. Behind a name the machine looks one token ahead for a call. -/
theorem term_mirrored (hexpr : expression.Mirrored list room) (hplace : place.Mirrored list room) :
    term.Mirrored list room := by
  intro depth hdepth
  have hrefuse : Mirrors list (Machine.refuse list .missingExpression : Machine Expr)
      (Parser.fail .missingExpression) depth depth := .refuse _
  rw [perform]
  show Mirrors list _ (Parser.term room) depth depth
  refine .of_next (fun i hi hts => ?_) fun i t rest hi hts => ?_
  · rw [Parser.term]
    · exact hrefuse.stays hi hts
    all_goals simp
  -- Literals and constants: one token, and nothing behind it.
  have single : ∀ e : Expr, Agree list i depth depth (.ok (e, rest))
      ((Machine.advance list >>= fun _ => (pure e : Machine Expr)) ⟨i, depth⟩) :=
    fun e => Mirrors.taken (p := pure e) (fun _ => .pure e) hi hts
  cases t with
  | intLit text => rw [Parser.term]; exact single (.int ⟨text⟩)
  | realLit text => rw [Parser.term]; exact single (.real ⟨text⟩)
  | stringLit text => rw [Parser.term]; exact single (.string text)
  | charLit text => rw [Parser.term]; exact single (.char text)
  | ident name =>
    rw [Parser.term_ident]
    have hcall : Mirrors list (do return Expr.call name (← arguments.perform list))
        (Expr.call name <$> Parser.arguments room) depth depth := by
      rw [map_eq_pure_bind]
      exact (arguments_mirrored hexpr depth hdepth).returns (Expr.call name)
    refine Mirrors.callOr hcall hi hts ?_
    have hother : Mirrors list (do return Expr.place (← place.perform list))
        (Expr.place <$> Parser.place room) depth depth := by
      rw [map_eq_pure_bind]
      exact (hplace depth hdepth).returns Expr.place
    exact hother.stays hi hts
  | keyword k =>
    cases k with
    | true_ => rw [Parser.term]; exact single .true_
    | false_ => rw [Parser.term]; exact single .false_
    | null => rw [Parser.term]; exact single .null
    | sizeof =>
      rw [Parser.term]
      exact Mirrors.taken (fun _ => sizeofOperand_mirrored depth hdepth) hi hts
    | _ =>
      rw [Parser.term]
      · exact hrefuse.stays hi hts
      all_goals simp
  | mark n =>
    cases n with
    | lparen =>
      rw [Parser.term]
      exact Mirrors.taken (fun _ => bounded_mirrored hexpr depth hdepth) hi hts
    | _ =>
      rw [Parser.term]
      · exact hrefuse.stays hi hts
      all_goals simp

end Step

/-- Whatever the room is, the routines for expressions mirror their parsers. -/
theorem mirroredWith (list : TokenList) (room : Nat) : MirroredWith list room := by
  -- The routines only call each other with less room, or without going around.
  have step : ∀ room, (∀ r, room = r + 1 → MirroredWith list r) → MirroredWith list room := by
    intro room prev
    have hexpr := expression_mirrored_step prev
    have hsuffixes := suffixes_mirrored_step prev
    have hunary := unary_mirrored_step prev (term_mirrored hexpr (place_mirrored hsuffixes))
    have hchain := chain_mirrored_step prev
    exact ⟨hexpr, operand_mirrored_step hchain hunary, hchain, hunary, hsuffixes⟩
  induction room with
  | zero => exact step 0 nofun
  | succ room ih =>
    refine step (room + 1) fun r hr => ?_
    cases hr
    exact ih

/-- Full expressions, with any room. -/
theorem expression_mirrored : expression.Mirrored list room := (mirroredWith list room).expression

theorem assignment_mirrored : assignment.Mirrored list room := by
  intro depth hdepth
  rw [perform]
  exact (place_mirrored (mirroredWith list room).suffixes depth hdepth).bind fun place =>
    (Mirrors.expect .assign _).bind fun _ =>
    (expression_mirrored depth hdepth).returns fun value => Assignment.mk place value

/-! ## Statements -/

/-- What follows the keyword of a return. -/
theorem returnRest_mirrored : returnRest.Mirrored list room := by
  intro depth hdepth
  rw [perform]
  exact (Mirrors.unlessNext .semicolon (expression_mirrored depth hdepth)).bind fun value? =>
    (Mirrors.expect .semicolon _).returns fun _ => Stmt.return_ value?

/-- What follows the parenthesis of a call, as a statement. -/
theorem callRest_mirrored (name : String) : (callRest name).Mirrored list room := by
  intro depth hdepth
  rw [perform]
  exact (arguments_mirrored expression_mirrored depth hdepth).bind fun args =>
    (Mirrors.expect .semicolon _).returns fun _ => Stmt.call ⟨name, args⟩

/-- An assignment as a statement. -/
theorem assignStmt_mirrored : assignStmt.Mirrored list room := by
  intro depth hdepth
  rw [perform]
  exact (assignment_mirrored depth hdepth).bind fun assignment =>
    (Mirrors.expect .semicolon _).returns fun _ => Stmt.assign assignment

/-- A condition in its parentheses. -/
theorem condition_mirrored (k : Keyword) (closing : Context) :
    (condition k closing).Mirrored list room := by
  intro depth hdepth
  rw [perform]
  exact (Mirrors.expect .lparen _).bind fun _ => (expression_mirrored depth hdepth).bind fun c =>
    (Mirrors.expect .rparen _).returns fun _ => c

/-- Statements, given blocks with the same room. -/
theorem statement_mirrored_of_block (hblock : ∀ context, (block context).Mirrored list room) :
    statement.Mirrored list room := by
  intro depth hdepth
  have hrefuse : Mirrors list (Machine.refuse list .missingStatement : Machine Stmt)
      (Parser.fail .missingStatement) depth depth := .refuse _
  rw [perform]
  show Mirrors list _ (Parser.statement room) depth depth
  refine .of_next (fun i hi hts => ?_) fun i t rest hi hts => ?_
  · rw [Parser.statement]
    · exact hrefuse.stays hi hts
    all_goals simp
  cases t with
  | ident name =>
    rw [Parser.statement_ident]
    -- The parser has taken the name before it looks for a parenthesis; the machine looks ahead.
    refine Mirrors.callOr (callRest_mirrored name depth hdepth) hi hts ?_
    rw [← Parser.assignStmt_ident]
    exact (assignStmt_mirrored depth hdepth).stays hi hts
  | keyword k =>
    cases k with
    | return_ =>
      rw [Parser.statement]
      exact Mirrors.taken (fun _ => returnRest_mirrored depth hdepth) hi hts
    | if_ =>
      rw [Parser.statement]
      refine Mirrors.taken (fun _ => ?_) hi hts
      refine (condition_mirrored .if_ .afterIfCondition depth hdepth).bind fun c =>
        (hblock _ depth hdepth).bind fun body => (Mirrors.acceptKeyword .else_).bind fun other => ?_
      cases other with
      | true => exact (hblock _ depth hdepth).returns (Stmt.ifElse c body)
      | false => exact .pure (Stmt.ifThen c body)
    | while_ =>
      rw [Parser.statement]
      refine Mirrors.taken (fun _ => ?_) hi hts
      exact (condition_mirrored .while_ .afterWhileCondition depth hdepth).bind fun c =>
        (hblock _ depth hdepth).returns (Stmt.whileLoop c)
    | for_ =>
      have hassign : assignment.Mirrored list room := assignment_mirrored
      rw [Parser.statement]
      refine Mirrors.taken (fun _ => ?_) hi hts
      exact (Mirrors.expect .lparen _).bind fun _ =>
        (Mirrors.unlessNext .semicolon (hassign depth hdepth)).bind fun start? =>
        (Mirrors.expect .semicolon _).bind fun _ => (expression_mirrored depth hdepth).bind fun c =>
        (Mirrors.expect .semicolon _).bind fun _ =>
        (Mirrors.unlessNext .rparen (hassign depth hdepth)).bind fun step? =>
        (Mirrors.expect .rparen _).bind fun _ =>
        (hblock _ depth hdepth).returns (Stmt.forLoop start? c step?)
    | _ =>
      rw [Parser.statement]
      · exact hrefuse.stays hi hts
      all_goals simp
  | _ =>
    rw [Parser.statement]
    · exact hrefuse.stays hi hts
    all_goals simp

/-- A statement that was parsed has taken a token. -/
theorem length_lt_of_statement {ts rest : List Token} {s : Stmt}
    (h : Parser.statement room ts = .ok (s, rest)) : rest.length < ts.length := by
  have hts := (Parser.statement_reads_of_block (Parser.block_reads room) h).1
  have hne : s.tokens ≠ [] := by
    cases s <;> simp [Stmt.tokens, Stmt.conditionTokens]
  have hpos := List.length_pos_iff.mpr hne
  rw [hts, List.length_append]
  omega

/-- One round of the loop over the statements of a block. -/
theorem blockStmt_mirrored (hstmt : statement.Mirrored list room) :
    blockStmt.Mirrored list room := by
  intro depth hdepth
  rw [perform]
  show Mirrors list _ (Parser.blockStmt room) depth depth
  refine .nextIs (.refuse .lateDeclaration) (hstmt depth hdepth) fun ts => ?_
  rw [Parser.blockStmt]
  cases ts <;> rfl

/-- The loop itself. Each round takes a token. -/
theorem blockStmts_mirrored (hstmt : statement.Mirrored list room) :
    blockStmts.Mirrored list room := by
  intro depth hdepth
  refine .loop _ (by conv => lhs; rw [perform]) (fun ts => ?_)
    (blockStmt_mirrored hstmt depth hdepth) ?_
  · cases ts with
    | nil => rfl
    | cons t ts =>
      cases t with
      | mark n => cases n <;> rfl
      | _ => rfl
  · intro ts rest s _ h
    replace h : Parser.blockStmt room ts = .ok (s, rest) := h
    unfold Parser.blockStmt at h
    split at h
    · exact absurd h Parser.fail_ne_ok
    · exact length_lt_of_statement h

/-- The contents of a block, given statements with the same room. -/
theorem blockContents_mirrored_of_statement (hstmt : statement.Mirrored list room) :
    blockContents.Mirrored list room := by
  intro depth hdepth
  rw [perform]
  show Mirrors list _ (Parser.blockContents room) depth depth
  rw [Parser.blockContents]
  exact (varDecls_mirrored depth hdepth).bind fun decls =>
    (blockStmts_mirrored hstmt depth hdepth).returns fun stmts => Block.mk decls stmts

/-- A block asks for a level behind its opening brace. -/
theorem block_eq_nested (context : Context) (room : Nat) :
    Parser.block context room =
      (do
        Parser.expect .lcurly context
        let block ← (nested .blockContents).parser room
        Parser.expect .rcurly (.closingBlock context)
        return block) := by
  cases room <;> rw [Parser.block] <;> rfl

/-- Blocks, by induction on the room. -/
theorem block_mirrored (context : Context) : (block context).Mirrored list room := by
  induction room using Nat.strongRecOn generalizing context with
  | _ room ih =>
  have hnested : (nested .blockContents).Mirrored list room := by
    refine nested_mirrored fun left hleft => ?_
    exact blockContents_mirrored_of_statement
      (statement_mirrored_of_block fun context => ih left (by omega) context)
  intro depth hdepth
  rw [perform]
  show Mirrors list _ (Parser.block context room) depth depth
  rw [block_eq_nested]
  exact (Mirrors.expect .lcurly _).bind fun _ => (hnested depth hdepth).bind fun b =>
    (Mirrors.expect .rcurly _).returns fun _ => b

/-- Statements, with any room. -/
theorem statement_mirrored : statement.Mirrored list room :=
  statement_mirrored_of_block block_mirrored

/-- The contents of a block, with any room. -/
theorem blockContents_mirrored : blockContents.Mirrored list room :=
  blockContents_mirrored_of_statement statement_mirrored

/-! ## Declarations -/

/-- What follows the parameters of a function. -/
theorem functionRest_mirrored (type : TypeName) (name : String) (formals : List Formal) :
    (functionRest type name formals).Mirrored list room := by
  intro depth hdepth
  rw [perform]
  refine (Mirrors.accept .semicolon).bind fun ended => ?_
  cases ended with
  | true => exact .pure (Decl.prototype type name formals)
  | false =>
    exact (Mirrors.expect .lcurly _).bind fun _ => (blockContents_mirrored depth hdepth).bind
      fun body => (Mirrors.expect .rcurly _).returns fun _ => Decl.function type name formals body

/-- A declaration that starts with a type. -/
theorem typedDecl_mirrored : typedDecl.Mirrored list room := by
  intro depth hdepth
  rw [perform]
  refine (typeName_mirrored depth hdepth).bind fun type => Mirrors.identifier.bind fun name =>
    (Mirrors.accept .lparen).bind fun function => ?_
  cases function with
  | true =>
    exact (formals_mirrored depth hdepth).bind fun fs =>
      functionRest_mirrored type name fs depth hdepth
  | false => exact (variableRest_mirrored type name depth hdepth).returns Decl.var

/-- Declarations. The machine looks two tokens ahead to tell a struct from a variable of its
type. -/
theorem declaration_mirrored : declaration.Mirrored list room := by
  intro depth hdepth
  have htyped : Mirrors list (typedDecl.perform list) (Parser.typedDecl room) depth depth :=
    typedDecl_mirrored depth hdepth
  rw [perform]
  show Mirrors list _ (Parser.declaration room) depth depth
  refine .of_next (fun i hi hts => ?_) fun i t rest hi hts => ?_
  · rw [Machine.bind_of_ok (Machine.peekAhead_eq 2)]
    exact htyped.stays hi hts
  rw [Machine.bind_of_ok (Machine.peekAhead_eq 2), hts]
  by_cases hstruct : ∃ second more, t = .keyword .struct ∧ rest = second :: .mark .lcurly :: more
  · obtain ⟨second, more, rfl, rfl⟩ := hstruct
    show Agree _ _ _ _ (Parser.structRest (second :: .mark .lcurly :: more)) _
    exact Mirrors.taken (fun _ => structRest_mirrored depth hdepth) hi hts
  · have hparser : Parser.declaration room (t :: rest) = Parser.typedDecl room (t :: rest) := by
      unfold Parser.declaration
      split
      · next second more heq =>
        obtain ⟨rfl, rfl⟩ := List.cons.inj heq
        exact absurd ⟨second, more, rfl, rfl⟩ hstruct
      · rfl
    -- The machine looks at the same two tokens.
    have hlook : ¬(some t = some (.keyword .struct) ∧
        (t :: rest)[2]? = some (.mark .lcurly)) := by
      rintro ⟨hfirst, hthird⟩
      obtain rfl := Option.some.inj hfirst
      cases rest with
      | nil => cases hthird
      | cons second rest =>
        cases rest with
        | nil => cases hthird
        | cons third more =>
          obtain rfl := Option.some.inj hthird
          exact hstruct ⟨second, more, rfl, rfl⟩
    rw [hparser, if_neg hlook]
    exact htyped.stays hi hts

/-- The loop over declarations. Each takes a token. -/
theorem declarations_mirrored : declarations.Mirrored list room := by
  intro depth hdepth
  refine .loop _ (by conv => lhs; rw [perform]) (fun ts => ?_) (declaration_mirrored depth hdepth)
    fun ts rest d _ => Parser.length_lt_of_declaration
  cases ts <;> rfl

/-- The routine that reads a whole program. -/
theorem program_mirrored : program.Mirrored list room := by
  intro depth hdepth
  rw [perform]
  exact (declarations_mirrored depth hdepth).returns Program.mk

/-- Every routine mirrors its parser. -/
theorem mirrored (r : Routine α) (list : TokenList) (room : Nat) : r.Mirrored list room := by
  -- Only a routine on a level of its own holds another one.
  induction r generalizing room with
  | nested r ih => exact nested_mirrored fun left _ => ih left
  | typeName => exact typeName_mirrored
  | variableRest type name => exact variableRest_mirrored type name
  | varDecl => exact varDecl_mirrored
  | varDecls => exact varDecls_mirrored
  | formal => exact formal_mirrored
  | moreFormals => exact moreFormals_mirrored
  | formals => exact formals_mirrored
  | structRest => exact structRest_mirrored
  | sizeofOperand => exact sizeofOperand_mirrored
  | expression => exact expression_mirrored
  | binary level =>
    exact binary_mirrored ((mirroredWith list room).operand level)
      ((mirroredWith list room).chain level)
  | operand level => exact (mirroredWith list room).operand level
  | unary => exact (mirroredWith list room).unary
  | term =>
    exact term_mirrored expression_mirrored (place_mirrored (mirroredWith list room).suffixes)
  | bounded => exact bounded_mirrored expression_mirrored
  | moreArguments => exact moreArguments_mirrored expression_mirrored
  | arguments => exact arguments_mirrored expression_mirrored
  | place => exact place_mirrored (mirroredWith list room).suffixes
  | assignment => exact assignment_mirrored
  | returnRest => exact returnRest_mirrored
  | callRest name => exact callRest_mirrored name
  | assignStmt => exact assignStmt_mirrored
  | condition k closing => exact condition_mirrored k closing
  | block context => exact block_mirrored context
  | blockContents => exact blockContents_mirrored
  | blockStmt => exact blockStmt_mirrored statement_mirrored
  | blockStmts => exact blockStmts_mirrored statement_mirrored
  | statement => exact statement_mirrored
  | functionRest type name formals => exact functionRest_mirrored type name formals
  | typedDecl => exact typedDecl_mirrored
  | declaration => exact declaration_mirrored
  | declarations => exact declarations_mirrored
  | program => exact program_mirrored

end Routine

end SyntaxOutline
