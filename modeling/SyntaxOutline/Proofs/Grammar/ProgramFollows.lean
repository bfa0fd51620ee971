import SyntaxOutline.Proofs.Grammar.ExpressionFollows
import SyntaxOutline.Proofs.Grammar.ProgramReads

/-!
# The parsers of statements and declarations follow the grammar

The grammar lists the forms of a declaration one by one, while the parser reads what they have in
common only once and chooses later. That makes no difference to the language: the forms are the
common part times the sum of what may follow it (`typed_le_decl`, `struct_le_decl`).

Main result: `program_follows`.
-/

namespace SyntaxOutline

open Grammar

open scoped Computability

namespace Grammar

/-! ## What may follow the common part of several forms -/

/-- What follows the type and the name of a variable. -/
def variableTail : Language Token :=
  (Terminal.mark .lbracket).words * (Terminal.intLiteral.words *
    ((Terminal.mark .rbracket).words * (Terminal.mark .semicolon).words)) +
  (Terminal.mark .semicolon).words

/-- What stands between the braces of a block. -/
def contentsWords : Language Token := Nonterminal.varDecl.words∗ * Nonterminal.stmt.words∗

/-- What follows the parameters of a function. -/
def functionTail : Language Token :=
  (Terminal.mark .semicolon).words + Nonterminal.block.words

/-- What follows the type of a declaration. -/
def typedTail : Language Token :=
  Terminal.identifier.words *
    ((Terminal.mark .lparen).words *
      (Nonterminal.formals.words * (Terminal.mark .rparen).words * functionTail) + variableTail)

/-- What follows the opening brace of a struct. -/
def structTail : Language Token :=
  Nonterminal.varDecl.words∗ *
    ((Terminal.mark .rcurly).words * (Terminal.mark .semicolon).words)

instance : Productive variableTail := inferInstanceAs (Productive (_ + _))
instance : Productive contentsWords := inferInstanceAs (Productive (_ * _))
instance : Productive functionTail := inferInstanceAs (Productive (_ + _))
instance : Productive typedTail := inferInstanceAs (Productive (_ * (_ + _)))

/-- The forms of a type. -/
theorem type_words :
    Nonterminal.type.words =
      (Terminal.keyword .int).words + (Terminal.keyword .bool).words +
        (Terminal.keyword .double).words + (Terminal.keyword .void).words +
        (Terminal.keyword .char).words +
        (Terminal.keyword .struct).words * Terminal.identifier.words :=
  Nonterminal.words_eq _

/-- A variable is a type and a name, and then a size or none. -/
theorem varDecl_words :
    Nonterminal.varDecl.words =
      Nonterminal.type.words * (Terminal.identifier.words * variableTail) := by
  rw [Nonterminal.words_eq, variableTail]
  simp only [rule, denote_mul, denote_optional, denote_nonterminal, denote_terminal, denote_mark,
    denote_identifier, mul_assoc, add_mul, one_mul]

/-- A block has its variables before its statements. -/
theorem block_words :
    Nonterminal.block.words =
      (Terminal.mark .lcurly).words * (contentsWords * (Terminal.mark .rcurly).words) := by
  rw [Nonterminal.words_eq, contentsWords]
  simp only [rule, denote_mul, denote_kstar, denote_nonterminal, denote_mark, mul_assoc]

/-- The forms of a statement. An assignment and a call both start with a name. -/
theorem stmt_words :
    Nonterminal.stmt.words =
      Nonterminal.assign.words * (Terminal.mark .semicolon).words +
        Nonterminal.call.words * (Terminal.mark .semicolon).words +
        (Terminal.keyword .if_).words * ((Terminal.mark .lparen).words * (Nonterminal.expr.words *
          (Terminal.mark .rparen).words) * (Nonterminal.block.words *
          ((Terminal.keyword .else_).words * Nonterminal.block.words + 1))) +
        (Terminal.keyword .for_).words * ((Terminal.mark .lparen).words *
          ((Nonterminal.assign.words + 1) * ((Terminal.mark .semicolon).words *
          (Nonterminal.expr.words * ((Terminal.mark .semicolon).words *
          ((Nonterminal.assign.words + 1) * ((Terminal.mark .rparen).words *
          Nonterminal.block.words))))))) +
        (Terminal.keyword .while_).words * ((Terminal.mark .lparen).words *
          (Nonterminal.expr.words * (Terminal.mark .rparen).words) * Nonterminal.block.words) +
        (Terminal.keyword .return_).words *
          ((Nonterminal.expr.words + 1) * (Terminal.mark .semicolon).words) := by
  rw [Nonterminal.words_eq]
  simp only [rule, denote_mul, denote_add, denote_optional, denote_nonterminal, denote_keyword,
    denote_mark, mul_assoc]

/-- A variable and a function both start with a type and a name, so only what follows tells them
apart. -/
theorem typed_le_decl : Nonterminal.type.words * typedTail ≤ Nonterminal.decl.words := by
  have hdecl : Nonterminal.funcDecl.words = Nonterminal.type.words * (Terminal.identifier.words *
      ((Terminal.mark .lparen).words * (Nonterminal.formals.words *
        ((Terminal.mark .rparen).words * (Terminal.mark .semicolon).words)))) := by
    rw [Nonterminal.words_eq]
    simp only [rule, denote_mul, denote_nonterminal, denote_mark, denote_identifier, mul_assoc]
  have hdef : Nonterminal.funcDef.words = Nonterminal.type.words * (Terminal.identifier.words *
      ((Terminal.mark .lparen).words * (Nonterminal.formals.words *
        ((Terminal.mark .rparen).words * Nonterminal.block.words)))) := by
    rw [Nonterminal.words_eq]
    simp only [rule, denote_mul, denote_nonterminal, denote_mark, denote_identifier, mul_assoc]
  -- Multiplied out, what follows a type are the two kinds of functions and the variables.
  have hsum : Nonterminal.type.words * typedTail =
      Nonterminal.funcDecl.words + Nonterminal.funcDef.words + Nonterminal.varDecl.words := by
    rw [typedTail, functionTail, hdecl, hdef, varDecl_words]
    simp only [mul_add, mul_assoc]
  rw [hsum, Nonterminal.words_eq .decl]
  refine add_le (add_le ?_ ?_) ?_
  · exact le_add_of_left (le_add_of_right le_rfl)
  · exact le_add_of_right le_rfl
  · exact le_add_of_left (le_add_of_left (le_add_of_right le_rfl))

/-- A struct, or what is of a struct type. -/
theorem struct_le_decl :
    (Terminal.keyword .struct).words *
      (Terminal.identifier.words * ((Terminal.mark .lcurly).words * structTail + typedTail)) ≤
    Nonterminal.decl.words := by
  have hstruct : Nonterminal.structDecl.words = (Terminal.keyword .struct).words *
      (Terminal.identifier.words * ((Terminal.mark .lcurly).words * structTail)) := by
    rw [Nonterminal.words_eq, structTail]
    simp only [rule, denote_mul, denote_kstar, denote_nonterminal, denote_keyword, denote_mark,
      denote_identifier, mul_assoc]
  have htype : (Terminal.keyword .struct).words * Terminal.identifier.words ≤
      Nonterminal.type.words := by
    rw [type_words]
    exact le_add_of_right le_rfl
  rw [mul_add, mul_add, ← hstruct, ← mul_assoc]
  refine add_le ?_ (le_trans (mul_le_mul_left htype typedTail) typed_le_decl)
  rw [Nonterminal.words_eq .decl]
  exact le_add_of_left (le_add_of_left (le_add_of_left le_rfl))

end Grammar

namespace Parser

/-! ## Types, variables and parameters -/

theorem typeName_follows : typeName.Follows Nonterminal.type.words := by
  have hfail : Follows (fail .missingType : Parser TypeName) Nonterminal.type.words := .fail _
  refine .of_turns hfail rfl fun u => ?_
  cases u with
  | keyword k =>
    cases k with
    | int =>
      refine .single .int (.keyword .int) ?_ fun ts => rfl
      exact le_of_mem fun w hw => by simp only [type_words, Language.mem_add, hw, true_or]
    | bool =>
      refine .single .bool (.keyword .bool) ?_ fun ts => rfl
      exact le_of_mem fun w hw => by simp only [type_words, Language.mem_add, hw, true_or, or_true]
    | double =>
      refine .single .double (.keyword .double) ?_ fun ts => rfl
      exact le_of_mem fun w hw => by simp only [type_words, Language.mem_add, hw, true_or, or_true]
    | void =>
      refine .single .void (.keyword .void) ?_ fun ts => rfl
      exact le_of_mem fun w hw => by simp only [type_words, Language.mem_add, hw, true_or, or_true]
    | char =>
      refine .single .char (.keyword .char) ?_ fun ts => rfl
      exact le_of_mem fun w hw => by simp only [type_words, Language.mem_add, hw, true_or, or_true]
    | struct =>
      refine .token (.keyword .struct) (Follows.identifier.map TypeName.struct) ?_ fun ts => rfl
      exact le_of_mem fun w hw => by simp only [type_words, Language.mem_add, hw, or_true]
    | _ => exact .hands hfail fun ts => rfl
  | _ => exact .hands hfail fun ts => rfl

theorem arraySize_follows : arraySize.Follows Terminal.intLiteral.words := by
  have hfail : Follows (fail .missingArraySize : Parser IntLiteral) Terminal.intLiteral.words :=
    .fail _
  refine .of_turns hfail rfl fun u => ?_
  cases u with
  | intLit text => exact .single ⟨text⟩ (.intLiteral text) le_rfl fun ts => rfl
  | _ => exact .hands hfail fun ts => rfl

/-- What follows the name of a variable. -/
theorem variableRest_follows (type : TypeName) (name : String) :
    (variableRest type name).Follows variableTail := by
  have hend : ∀ size? : Option IntLiteral, Follows (do
      expect .semicolon .afterVariable
      return VarDecl.mk type name size?) (Terminal.mark .semicolon).words :=
    fun size? => (Follows.expect .semicolon _).returns fun _ => VarDecl.mk type name size?
  refine .accept_bind ?_ (hend none)
  exact arraySize_follows.bind fun size => (Follows.expect .rbracket _).bind fun _ =>
    hend (some size)

theorem varDecl_follows : varDecl.Follows Nonterminal.varDecl.words := by
  rw [varDecl_words]
  exact typeName_follows.bind fun type => Follows.identifier.bind fun name =>
    variableRest_follows type name

/-- Any number of variables. -/
theorem varDecls_follow : varDecls.Follows Nonterminal.varDecl.words∗ :=
  varDecl_follows.repeatWhile fun _ _ => rfl

theorem formal_follows :
    formal.Follows (Nonterminal.type.words * Terminal.identifier.words) :=
  typeName_follows.bind fun type => Follows.identifier.returns fun name => Formal.mk type name

/-- Any number of parameters, with the parenthesis that closes them. -/
theorem formals_follow :
    formals.Follows (Nonterminal.formals.words * (Terminal.mark .rparen).words) := by
  rw [Nonterminal.words_eq]
  exact (formal_follows.separatedUntil .rparen).bind fun fs =>
    (Follows.expect .rparen _).returns fun _ => fs

/-! ## Statements -/

section Statement

variable {room : Nat}

/-- What follows the keyword of a return. -/
theorem returnRest_follows :
    (returnRest room).Follows
      ((Nonterminal.expr.words + 1) * (Terminal.mark .semicolon).words) :=
  ((followsWith room).expression.unlessNext .semicolon).bind fun value? =>
    (Follows.expect .semicolon _).returns fun _ => Stmt.return_ value?

/-- What follows the parenthesis that opens a call, as a statement. -/
theorem callRest_follows (name : String) :
    (callRest name room).Follows (argumentWords * (Terminal.mark .semicolon).words) :=
  (arguments_follow (followsWith room).expression).bind fun args =>
    (Follows.expect .semicolon _).returns fun _ => Stmt.call ⟨name, args⟩

/-- A condition in its parentheses. -/
theorem condition_follows (k : Keyword) (closing : Context) :
    (condition k closing room).Follows ((Terminal.mark .lparen).words *
      (Nonterminal.expr.words * (Terminal.mark .rparen).words)) :=
  (Follows.expect .lparen _).bind fun _ => (followsWith room).expression.bind fun c =>
    (Follows.expect .rparen _).returns fun _ => c

/-- What follows the first identifier of an assignment. -/
def assignRest (name : String) (room : Nat) : Parser Stmt := do
  let place ← suffixes room (.var name)
  expect .assign .inAssignment
  let value ← expression room
  expect .semicolon .afterAssignment
  return .assign ⟨place, value⟩

/-- An assignment that starts with a name goes on with the indices and fields of a place. -/
theorem assignStmt_ident (name : String) (ts : List Token) :
    assignStmt room (.ident name :: ts) = assignRest name room ts := by
  simp only [assignStmt, assignment, place, bind_assoc, pure_bind, assignRest]
  rfl

/-- What follows the name in an assignment. -/
theorem assignRest_follows (name : String) :
    (assignRest name room).Follows (suffixWords * ((Terminal.mark .assign).words *
      (Nonterminal.expr.words * (Terminal.mark .semicolon).words))) :=
  ((followsWith room).suffixes _).bind fun place => (Follows.expect .assign _).bind fun _ =>
    (followsWith room).expression.bind fun value =>
      (Follows.expect .semicolon _).returns fun _ => Stmt.assign ⟨place, value⟩

/-- Behind an identifier, a parenthesis tells a call from an assignment. -/
theorem statement_ident (name : String) (ts : List Token) :
    statement room (.ident name :: ts) =
      (accept .lparen >>= fun call =>
        if call then callRest name room else assignRest name room) ts := by
  cases ts with
  | nil =>
    rw [statement, assignStmt_ident]
    · rfl
    · simp
  | cons u ts =>
    by_cases hu : u = .mark .lparen
    · rw [hu, statement, bind_of_ok (accept_cons_self .lparen ts)]
      rfl
    · rw [statement, assignStmt_ident, bind_of_ok (accept_cons_of_ne hu ts)]
      · rfl
      · exact fun rest h => hu (List.cons.inj h).1

/-- Statements follow their rule if blocks with the same room do. -/
theorem statement_follows_of_block
    (hblock : ∀ context, (block context room).Follows Nonterminal.block.words) :
    (statement room).Follows Nonterminal.stmt.words := by
  have hfail : Follows (fail .missingStatement : Parser Stmt) Nonterminal.stmt.words := .fail _
  have hexpr := (followsWith room).expression
  refine .of_turns hfail (by simp [statement]) fun u => ?_
  cases u with
  | ident name =>
    -- A call and an assignment both start with a name, so the token behind it is looked at first.
    have hnext : Follows (accept .lparen >>= fun call =>
        if call then callRest name room else assignRest name room)
        ((Terminal.mark .lparen).words * (argumentWords * (Terminal.mark .semicolon).words) +
          suffixWords * ((Terminal.mark .assign).words *
            (Nonterminal.expr.words * (Terminal.mark .semicolon).words))) :=
      .accept_bind (callRest_follows name) (assignRest_follows name)
    refine .token (.identifier name) hnext ?_ (statement_ident name)
    refine le_of_mem fun w hw => ?_
    simp only [mul_add, Language.mem_add] at hw
    simp only [stmt_words, Language.mem_add, call_words, assign_words, loc_words, mul_assoc]
    rcases hw with hw | hw
    · simp only [hw, true_or, or_true]
    · simp only [hw, true_or]
  | keyword k =>
    cases k with
    | return_ =>
      refine .token (.keyword .return_) returnRest_follows ?_ fun ts => by rw [statement]
      exact le_of_mem fun w hw => by simp only [stmt_words, Language.mem_add, hw, or_true]
    | if_ =>
      have hrest : ∀ c body, Follows (acceptKeyword .else_ >>= fun other =>
          if other then do
            let other ← block (.afterKeyword .else_) room
            return Stmt.ifElse c body other
          else return Stmt.ifThen c body)
          ((Terminal.keyword .else_).words * Nonterminal.block.words + 1) :=
        fun c body => .acceptKeyword_bind ((hblock _).returns (Stmt.ifElse c body)) (.pure _)
      refine .token (.keyword .if_) ((condition_follows .if_ .afterIfCondition).bind fun c =>
        (hblock _).bind fun body => hrest c body) ?_ fun ts => by rw [statement]
      exact le_of_mem fun w hw => by simp only [stmt_words, Language.mem_add, hw, true_or, or_true]
    | while_ =>
      refine .token (.keyword .while_) ((condition_follows .while_ .afterWhileCondition).bind
        fun c => (hblock _).returns (Stmt.whileLoop c)) ?_ fun ts => by rw [statement]
      exact le_of_mem fun w hw => by simp only [stmt_words, Language.mem_add, hw, true_or, or_true]
    | for_ =>
      have hassign := assignment_follows room
      refine .token (.keyword .for_) ((Follows.expect .lparen _).bind fun _ =>
        (hassign.unlessNext .semicolon).bind fun start? => (Follows.expect .semicolon _).bind
        fun _ => hexpr.bind fun c => (Follows.expect .semicolon _).bind fun _ =>
        (hassign.unlessNext .rparen).bind fun step? => (Follows.expect .rparen _).bind fun _ =>
        (hblock _).returns (Stmt.forLoop start? c step?)) ?_ fun ts => by rw [statement]
      exact le_of_mem fun w hw => by simp only [stmt_words, Language.mem_add, hw, true_or, or_true]
    | _ => exact .hands hfail fun ts => by simp [statement]
  | _ => exact .hands hfail fun ts => by simp [statement]

/-- The contents of a block follow their rule if statements with the same room do. -/
theorem blockContents_follow_of_statement
    (hstmt : (statement room).Follows Nonterminal.stmt.words) :
    (blockContents room).Follows contentsWords := by
  have hround : (blockStmt room).Follows Nonterminal.stmt.words := by
    refine .of_turns hstmt (by simp [blockStmt, startsType]) fun u => ?_
    cases hu : u.startsType with
    | true => exact .hands (.fail .lateDeclaration) fun ts => by simp [blockStmt, startsType, hu]
    | false => exact .hands hstmt fun ts => by simp [blockStmt, startsType, hu]
  have hhead : ∀ u ts, insideBlock (u :: ts) = insideBlock [u] := by
    intro u ts
    cases u with
    | mark m => cases m <;> rfl
    | _ => rfl
  rw [blockContents]
  exact varDecls_follow.bind fun decls =>
    (hround.repeatWhile hhead).returns fun stmts => Block.mk decls stmts

end Statement

/-- A block opens a level, so the induction on the room goes from blocks to statements and back to
blocks. -/
theorem block_follows (room : Nat) (context : Context) :
    (block context room).Follows Nonterminal.block.words := by
  induction room generalizing context with
  | zero =>
    rw [block, block_words]
    exact (Follows.expect .lcurly _).bind fun _ => .fail _
  | succ room ih =>
    have hcontents := blockContents_follow_of_statement (statement_follows_of_block ih)
    rw [block, block_words]
    exact (Follows.expect .lcurly _).bind fun _ => hcontents.bind fun b =>
      (Follows.expect .rcurly _).returns fun _ => b

/-- The contents of a block, with any room. -/
theorem blockContents_follow (room : Nat) : (blockContents room).Follows contentsWords :=
  blockContents_follow_of_statement (statement_follows_of_block (block_follows room))

/-! ## Declarations -/

/-- What follows the parameters of a function: an end, or a body. -/
theorem functionRest_follows (type : TypeName) (name : String) (formals : List Formal)
    (room : Nat) : (functionRest type name formals room).Follows functionTail := by
  rw [functionTail, block_words, ← mul_one (Terminal.mark .semicolon).words]
  refine .accept_bind (.pure _) ?_
  exact (Follows.expect .lcurly _).bind fun _ => (blockContents_follow room).bind fun body =>
    (Follows.expect .rcurly _).returns fun _ => Decl.function type name formals body

/-- What follows the type of a declaration. -/
def typedRest (room : Nat) (type : TypeName) : Parser Decl := do
  let name ← identifier
  if ← accept .lparen then
    let formals ← formals
    functionRest type name formals room
  else
    return .var (← variableRest type name)

/-- What follows the type of a declaration. -/
theorem typedRest_follows (room : Nat) (type : TypeName) :
    (typedRest room type).Follows typedTail := by
  refine Follows.identifier.bind fun name => .accept_bind ?_ ?_
  · exact formals_follow.bind fun fs => functionRest_follows type name fs room
  · exact (variableRest_follows type name).returns Decl.var

/-- A declaration that starts with a type. -/
theorem typedDecl_follows (room : Nat) : (typedDecl room).Follows Nonterminal.decl.words :=
  (typeName_follows.bind fun type => typedRest_follows room type).mono typed_le_decl

/-- What follows the opening brace of a struct. -/
def structFields (name : String) : Parser Decl := do
  let fields ← varDecls
  expect .rcurly .afterStructFields
  expect .semicolon .afterStruct
  return .struct name fields

/-- What follows the opening brace of a struct. -/
theorem structFields_follow (name : String) : (structFields name).Follows structTail :=
  varDecls_follow.bind fun fields => (Follows.expect .rcurly _).bind fun _ =>
    (Follows.expect .semicolon _).returns fun _ => Decl.struct name fields

/-- A type that is a struct starts with the keyword and a name. -/
theorem typedDecl_struct (room : Nat) (ts : List Token) :
    typedDecl room (.keyword .struct :: ts) =
      (identifier >>= fun name => typedRest room (.struct name)) ts := by
  cases ts with
  | nil => rfl
  | cons u ts => cases u <;> rfl

/-- Looking two tokens ahead for the brace is the same as asking for it behind the name: where the
name is missing, both ways of going on refuse the token in its place. -/
theorem declaration_struct (room : Nat) (ts : List Token) :
    declaration room (.keyword .struct :: ts) =
      (identifier >>= fun name => accept .lcurly >>= fun fields =>
        if fields then structFields name else typedRest room (.struct name)) ts := by
  cases ts with
  | nil => rfl
  | cons second ts =>
    by_cases hbrace : ∃ rest, ts = .mark .lcurly :: rest
    · obtain ⟨rest, rfl⟩ := hbrace
      cases second <;> rfl
    · -- Without the brace the struct is a type, and its two tokens are read once more.
      have htyped : declaration room (.keyword .struct :: second :: ts) =
          typedDecl room (.keyword .struct :: second :: ts) := by
        unfold declaration
        split
        · next second' rest heq =>
          simp only [List.cons.injEq, true_and] at heq
          exact absurd ⟨rest, heq.2⟩ hbrace
        · rfl
      have haccept : accept .lcurly ts = .ok (false, ts) := by
        cases ts with
        | nil => rfl
        | cons third ts => exact accept_cons_of_ne (fun h => hbrace ⟨ts, by rw [h]⟩) ts
      rw [htyped, typedDecl_struct]
      cases second with
      | ident name =>
        have hname : identifier (.ident name :: ts) = .ok (name, ts) := rfl
        rw [bind_of_ok hname, bind_of_ok hname, bind_of_ok haccept]
        rfl
      | _ => rfl

/-- Declarations. The two tokens of look-ahead for a struct do no harm, by `declaration_struct`. -/
theorem declaration_follows (room : Nat) : (declaration room).Follows Nonterminal.decl.words := by
  refine .of_turns (typedDecl_follows room) rfl fun u => ?_
  by_cases hu : u = .keyword .struct
  · subst hu
    refine .token (.keyword .struct) ?_ struct_le_decl (declaration_struct room)
    exact Follows.identifier.bind fun name =>
      .accept_bind (structFields_follow name) (typedRest_follows room (.struct name))
  · refine .hands (typedDecl_follows room) fun ts => ?_
    unfold declaration
    split
    · next second rest heq => exact absurd (List.cons.inj heq).1 hu
    · rfl

/-- The parser of programs follows the grammar. -/
theorem program_follows (room : Nat) : (program room).Follows Nonterminal.program.words := by
  rw [Nonterminal.words_eq]
  exact ((declaration_follows room).repeatWhile fun _ _ => rfl).returns Program.mk

end Parser

end SyntaxOutline
