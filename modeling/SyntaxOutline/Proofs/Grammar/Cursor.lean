import Mathlib
import SyntaxOutline.Grammar.Session

/-!
# Parsing with a cursor

The parsers of the grammar take tokens from the front of a list, and each is told how many levels of
nesting it may open. Here the tokens stay where they are. A cursor moves over them, an index and a
count of the levels that are open, and the same grammar is parsed by reading the token at the index,
counting the index up, and counting levels up and down.

A cursor can be wrong where a list and an argument cannot, so everything that may go wrong is made
to show. A run has no outcome (`none`) if it reads where no token is, if a move takes the cursor
back, behind the end of the source or beyond the levels there may be, if it closes a level while
none is open, and if it does not come to an end: the loops below go round for as long as the next
token says so, whether or not a round has taken anything.

`Routine` names the parsers of the grammar, `Routine.perform` is what each does with a cursor, and
`Routine.parser` the parser that it stands for.
-/

namespace SyntaxOutline

/-- Where a machine is: the index of the next token and the number of levels that are open. -/
structure Cursor where
  index : Nat
  depth : Nat
deriving DecidableEq, Repr

namespace TokenList

/-- What stands at each index: a token and its position, and `none` at the end of the source. -/
def slots (list : TokenList) : List (Option Token × Position) :=
  list.tokens.map (fun t => (some t.token, t.position)) ++ [(none, list.finish)]

end TokenList

/-- The cursor is at a token or at the end, and not too many levels are open. -/
def Cursor.InRange (list : TokenList) (c : Cursor) : Prop :=
  c.index ≤ list.tokens.length ∧ c.depth ≤ maxNesting

instance (list : TokenList) (c : Cursor) : Decidable (c.InRange list) :=
  inferInstanceAs (Decidable (_ ∧ _))

/-- What moves a cursor and gives a value or an error; nothing at all if it goes wrong. -/
abbrev Machine (α : Type) := ExceptT SourceError (StateT Cursor Option) α

namespace Machine

variable {α : Type} (list : TokenList)

/-- Moves the cursor, which must not go back nor out of range. -/
def moveTo (next : Cursor) : Machine Unit := fun c =>
  if c.index ≤ next.index ∧ next.InRange list then some (.ok (), next) else none

/-- Reads what stands at the cursor. -/
def peek : Machine (Option Token × Position) := fun c =>
  list.slots[c.index]?.map fun slot => (.ok slot, c)

/-- Reads what stands in front of the cursor. -/
def previous : Machine (Option Token × Position) := fun c =>
  list.slots[c.index - 1]?.map fun slot => (.ok slot, c)

/-- Reads the token that stands `n` behind the cursor, if there is one. -/
def peekAhead (n : Nat) : Machine (Option Token) := fun c =>
  some (.ok (list.slots[c.index + n]?.bind (·.1)), c)

/-- Goes to the next token, unless the source is at its end, and gives the one it has passed. -/
def advance : Machine (Option Token × Position) := do
  if (← peek list).1.isSome then
    let c ← get
    moveTo list { c with index := c.index + 1 }
  previous list

/-- Refuses the token at the cursor. -/
def refuse (fault : SyntaxFault) : Machine α := do
  let (found, position) ← peek list
  throw ⟨.grammatical fault found, position⟩

/-- Opens a level of nesting. -/
def openLevel : Machine Unit := do
  let c ← get
  if maxNesting ≤ c.depth then refuse list .nestingTooDeep
  else moveTo list { c with depth := c.depth + 1 }

/-- Closes a level of nesting. -/
def closeLevel : Machine Unit := fun c =>
  match c.depth with
  | 0 => none
  | depth + 1 => moveTo list { c with depth := depth } c

/-- Closes the levels above the given number. -/
def closeTo (depth : Nat) : Machine Unit := do
  let c ← get
  moveTo list { c with depth := depth }

/-- Takes the token `t` if it is next, and says whether it was. -/
def accept (t : Token) : Machine Bool := do
  if (← peek list).1 = some t then
    let _ ← advance list
    return true
  else
    return false

/-- Takes the mark `m`, which has to be next. -/
def expect (m : Mark) (context : Context) : Machine Unit := do
  if ← accept list (.mark m) then
    return ()
  else
    refuse list (.missingMark m context)

/-- Takes an identifier, which has to be next. -/
def identifier : Machine String := do
  match (← peek list).1 with
  | some (.ident name) =>
    let _ ← advance list
    return name
  | _ => refuse list .missingIdentifier

/-- Takes the size of an array, which has to be next. -/
def arraySize : Machine IntLiteral := do
  match (← peek list).1 with
  | some (.intLit text) =>
    let _ ← advance list
    return ⟨text⟩
  | _ => refuse list .missingArraySize

/-- Takes an operator of the given level, if one is next. -/
def operator? (level : Level) : Machine (Option BinaryOp) := do
  match (← peek list).1 with
  | some (.mark m) =>
    match BinaryOp.ofMark? m with
    | some op =>
      if op.level = level then
        let _ ← advance list
        return some op
      else
        return none
    | none => return none
  | _ => return none

/-- Takes an operator that stands in front of its operand, if one is next. -/
def unaryOperator? : Machine (Option UnaryOp) := do
  match (← peek list).1 with
  | some (.mark m) =>
    match UnaryOp.ofMark? m with
    | some op =>
      let _ ← advance list
      return some op
    | none => return none
  | _ => return none

/-- Whether `test` holds of the next token. -/
def nextIs (test : Option Token → Bool) : Machine Bool := do
  return test (← peek list).1

/-- Whether the mark `m` is next. -/
def isNext (m : Mark) : Machine Bool := nextIs list (· = some (.mark m))

end Machine

/-- The routines that a grammar is parsed by, with what each gives. -/
inductive Routine : Type → Type 1 where
  /-- A routine one level of nesting deeper. -/
  | nested {α : Type} (r : Routine α) : Routine α
  | typeName : Routine TypeName
  | variableRest (type : TypeName) (name : String) : Routine VarDecl
  | varDecl : Routine VarDecl
  | varDecls : Routine (List VarDecl)
  | formal : Routine Formal
  /-- The parameters behind the first. -/
  | moreFormals : Routine (List Formal)
  | formals : Routine (List Formal)
  | structRest : Routine Decl
  | sizeofOperand : Routine Expr
  | expression : Routine Expr
  | binary (level : Level) : Routine Expr
  | operand (level : Level) : Routine Expr
  | unary : Routine Expr
  | term : Routine Expr
  | bounded : Routine Expr
  /-- The arguments behind the first. -/
  | moreArguments : Routine (List Expr)
  | arguments : Routine (List Expr)
  | place : Routine Place
  | assignment : Routine Assignment
  | returnRest : Routine Stmt
  | callRest (name : String) : Routine Stmt
  | assignStmt : Routine Stmt
  | condition (k : Keyword) (closing : Context) : Routine Expr
  | block (context : Context) : Routine Block
  | blockContents : Routine Block
  | blockStmt : Routine Stmt
  | blockStmts : Routine (List Stmt)
  | statement : Routine Stmt
  | functionRest (type : TypeName) (name : String) (formals : List Formal) : Routine Decl
  | typedDecl : Routine Decl
  | declaration : Routine Decl
  | declarations : Routine (List Decl)
  | program : Routine Program

open Machine in
mutual

/-- What a routine does with a cursor. -/
def Routine.perform (list : TokenList) {α : Type} (r : Routine α) : Machine α :=
  match r with
  | .nested r => do
    openLevel list
    -- The level is closed whatever the outcome is.
    (do
      let outcome ← (r |>.perform list).run
      let _ ← (closeLevel list).run
      return outcome : StateT Cursor Option (Except SourceError _))
  | .typeName => do
    match (← peek list).1 with
    | some (.keyword .int) => let _ ← advance list; return .int
    | some (.keyword .bool) => let _ ← advance list; return .bool
    | some (.keyword .double) => let _ ← advance list; return .double
    | some (.keyword .void) => let _ ← advance list; return .void
    | some (.keyword .char) => let _ ← advance list; return .char
    | some (.keyword .struct) =>
      let _ ← advance list
      return .struct (← identifier list)
    | _ => refuse list .missingType
  | .variableRest type name => do
    let size? ← if ← accept list (.mark .lbracket) then
        let size ← arraySize list
        expect list .rbracket .afterArraySize
        pure (some size)
      else pure none
    expect list .semicolon .afterVariable
    return ⟨type, name, size?⟩
  | .varDecl => do
    let type ← Routine.typeName |>.perform list
    let name ← identifier list
    Routine.variableRest type name |>.perform list
  | .varDecls => do
    if ← nextIs list (·.any Token.startsType) then
      let decl ← Routine.varDecl |>.perform list
      let decls ← Routine.varDecls |>.perform list
      return decl :: decls
    else return []
  | .formal => do
    let type ← Routine.typeName |>.perform list
    let name ← identifier list
    return ⟨type, name⟩
  | .moreFormals => do
    if ← isNext list .comma then
      let _ ← accept list (.mark .comma)
      let formal ← Routine.formal |>.perform list
      let formals ← Routine.moreFormals |>.perform list
      return formal :: formals
    else return []
  | .formals => do
    let formals ← (do
      if ← isNext list .rparen then return []
      else
        let first ← Routine.formal |>.perform list
        let others ← Routine.moreFormals |>.perform list
        return first :: others)
    expect list .rparen .afterParameters
    return formals
  | .structRest => do
    let name ← identifier list
    expect list .lcurly .afterStructName
    let fields ← Routine.varDecls |>.perform list
    expect list .rcurly .afterStructFields
    expect list .semicolon .afterStruct
    return .struct name fields
  | .sizeofOperand => do
    expect list .lparen (.afterKeyword .sizeof)
    let name ← identifier list
    expect list .rparen .afterSizeofOperand
    return .sizeof name
  | .expression => Routine.nested (.binary .bitOr) |>.perform list
  | .binary level => do
    let base := (← get).depth
    let left ← Routine.operand level |>.perform list
    list |>.chain level base left
  | .operand level =>
    match level.tighter? with
    | some tighter => Routine.binary tighter |>.perform list
    | none => Routine.unary |>.perform list
  | .unary => do
    match ← unaryOperator? list with
    | none => Routine.term |>.perform list
    | some op =>
      let operand ← Routine.nested .unary |>.perform list
      return .unary op operand
  | .term => do
    match (← peek list).1 with
    | some (.intLit text) => let _ ← advance list; return .int ⟨text⟩
    | some (.realLit text) => let _ ← advance list; return .real ⟨text⟩
    | some (.stringLit text) => let _ ← advance list; return .string text
    | some (.charLit text) => let _ ← advance list; return .char text
    | some (.keyword .true_) => let _ ← advance list; return .true_
    | some (.keyword .false_) => let _ ← advance list; return .false_
    | some (.keyword .null) => let _ ← advance list; return .null
    | some (.keyword .sizeof) =>
      let _ ← advance list
      Routine.sizeofOperand |>.perform list
    | some (.mark .lparen) =>
      let _ ← advance list
      Routine.bounded |>.perform list
    | some (.ident name) =>
      if (← peekAhead list 1) = some (.mark .lparen) then
        let _ ← advance list
        let _ ← advance list
        return .call name (← Routine.arguments |>.perform list)
      else
        return .place (← Routine.place |>.perform list)
    | _ => refuse list .missingExpression
  | .bounded => do
    let inner ← Routine.expression |>.perform list
    expect list .rparen .closingParentheses
    return .bounded inner
  | .moreArguments => do
    if ← isNext list .comma then
      let _ ← accept list (.mark .comma)
      let argument ← Routine.expression |>.perform list
      let arguments ← Routine.moreArguments |>.perform list
      return argument :: arguments
    else return []
  | .arguments => do
    let arguments ← (do
      if ← isNext list .rparen then return []
      else
        let first ← Routine.expression |>.perform list
        let others ← Routine.moreArguments |>.perform list
        return first :: others)
    expect list .rparen .afterArguments
    return arguments
  | .place => do
    let base := (← get).depth
    let name ← identifier list
    list |>.suffixes base (.var name)
  | .assignment => do
    let place ← Routine.place |>.perform list
    expect list .assign .inAssignment
    let value ← Routine.expression |>.perform list
    return ⟨place, value⟩
  | .returnRest => do
    let value? ← (do
      if ← isNext list .semicolon then return none
      else some <$> (Routine.expression |>.perform list))
    expect list .semicolon .afterReturn
    return .return_ value?
  | .callRest name => do
    let arguments ← Routine.arguments |>.perform list
    expect list .semicolon .afterCall
    return .call ⟨name, arguments⟩
  | .assignStmt => do
    let assignment ← Routine.assignment |>.perform list
    expect list .semicolon .afterAssignment
    return .assign assignment
  | .condition k closing => do
    expect list .lparen (.afterKeyword k)
    let condition ← Routine.expression |>.perform list
    expect list .rparen closing
    return condition
  | .block context => do
    expect list .lcurly context
    let block ← Routine.nested .blockContents |>.perform list
    expect list .rcurly (.closingBlock context)
    return block
  | .blockContents => do
    let decls ← Routine.varDecls |>.perform list
    let stmts ← Routine.blockStmts |>.perform list
    return ⟨decls, stmts⟩
  | .blockStmt => do
    if ← nextIs list (·.any Token.startsType) then refuse list .lateDeclaration
    else Routine.statement |>.perform list
  | .blockStmts => do
    if ← nextIs list (fun next? => next?.isSome && next? != some (.mark .rcurly)) then
      let stmt ← Routine.blockStmt |>.perform list
      let stmts ← Routine.blockStmts |>.perform list
      return stmt :: stmts
    else return []
  | .statement => do
    match (← peek list).1 with
    | some (.keyword .return_) =>
      let _ ← advance list
      Routine.returnRest |>.perform list
    | some (.keyword .if_) =>
      let _ ← advance list
      let condition ← Routine.condition .if_ .afterIfCondition |>.perform list
      let body ← Routine.block .afterIfCondition |>.perform list
      if ← accept list (.keyword .else_) then
        let other ← Routine.block (.afterKeyword .else_) |>.perform list
        return .ifElse condition body other
      else
        return .ifThen condition body
    | some (.keyword .while_) =>
      let _ ← advance list
      let condition ← Routine.condition .while_ .afterWhileCondition |>.perform list
      let body ← Routine.block .afterWhileCondition |>.perform list
      return .whileLoop condition body
    | some (.keyword .for_) =>
      let _ ← advance list
      expect list .lparen (.afterKeyword .for_)
      let start? ← (do
        if ← isNext list .semicolon then return none
        else some <$> (Routine.assignment |>.perform list))
      expect list .semicolon .afterForStart
      let condition ← Routine.expression |>.perform list
      expect list .semicolon .afterForCondition
      let step? ← (do
        if ← isNext list .rparen then return none
        else some <$> (Routine.assignment |>.perform list))
      expect list .rparen .afterForClauses
      let body ← Routine.block .afterForClauses |>.perform list
      return .forLoop start? condition step? body
    | some (.ident name) =>
      if (← peekAhead list 1) = some (.mark .lparen) then
        let _ ← advance list
        let _ ← advance list
        Routine.callRest name |>.perform list
      else
        Routine.assignStmt |>.perform list
    | _ => refuse list .missingStatement
  | .functionRest type name formals => do
    if ← accept list (.mark .semicolon) then
      return .prototype type name formals
    else
      expect list .lcurly .beforeFunctionBody
      let body ← Routine.blockContents |>.perform list
      expect list .rcurly .afterFunctionBody
      return .function type name formals body
  | .typedDecl => do
    let type ← Routine.typeName |>.perform list
    let name ← identifier list
    if ← accept list (.mark .lparen) then
      let formals ← Routine.formals |>.perform list
      Routine.functionRest type name formals |>.perform list
    else
      return .var (← Routine.variableRest type name |>.perform list)
  | .declaration => do
    let next? := (← peek list).1
    let third? ← peekAhead list 2
    if next? = some (.keyword .struct) ∧ third? = some (.mark .lcurly) then
      let _ ← advance list
      Routine.structRest |>.perform list
    else
      Routine.typedDecl |>.perform list
  | .declarations => do
    if ← nextIs list (·.isSome) then
      let decl ← Routine.declaration |>.perform list
      let decls ← Routine.declarations |>.perform list
      return decl :: decls
    else return []
  | .program => do
    return ⟨← Routine.declarations |>.perform list⟩
partial_fixpoint

/-- Folds the operators of a level that follow `left`. Each opens a level, and all of them are
closed when no more follow. -/
def TokenList.chain (list : TokenList) (level : Level) (base : Nat) (left : Expr) :
    Machine Expr := do
  match ← operator? list level with
  | none =>
    closeTo list base
    return left
  | some op =>
    openLevel list
    let right ← Routine.operand level |>.perform list
    list |>.chain level base (.binary op left right)
partial_fixpoint

/-- Folds the indices and fields that follow a place. Each opens a level, and all of them are closed
when no more follow. -/
def TokenList.suffixes (list : TokenList) (base : Nat) (place : Place) : Machine Place := do
  match (← peek list).1 with
  | some (.mark .lbracket) =>
    openLevel list
    let _ ← advance list
    let index ← Routine.expression |>.perform list
    expect list .rbracket .afterIndex
    list |>.suffixes base (.element place index)
  | some (.mark .dot) =>
    openLevel list
    let _ ← advance list
    let name ← identifier list
    list |>.suffixes base (.field place name)
  | _ =>
    closeTo list base
    return place
partial_fixpoint

end

open SyntaxOutline.Parser in
/-- The parser that a routine stands for, with the levels that it may open. -/
def Routine.parser {α : Type} (r : Routine α) (room : Nat) : Parser α :=
  match r with
  | .nested r =>
    match room with
    | 0 => fail .nestingTooDeep
    | room + 1 => r.parser room
  | .typeName => Parser.typeName
  | .variableRest type name => Parser.variableRest type name
  | .varDecl => Parser.varDecl
  | .varDecls => Parser.varDecls
  | .formal => Parser.formal
  | .moreFormals => repeatWhile (isNext .comma) do
    let _ ← accept .comma
    Parser.formal
  | .formals => Parser.formals
  | .structRest => Parser.structRest
  | .sizeofOperand => Parser.sizeofOperand
  | .expression => Parser.expression room
  | .binary level => Parser.binary level room
  | .operand level => Parser.operand level room
  | .unary => Parser.unary room
  | .term => Parser.term room
  | .bounded => Parser.bounded room
  | .moreArguments => repeatWhile (isNext .comma) do
    let _ ← accept .comma
    Parser.expression room
  | .arguments => Parser.arguments room
  | .place => Parser.place room
  | .assignment => Parser.assignment room
  | .returnRest => Parser.returnRest room
  | .callRest name => Parser.callRest name room
  | .assignStmt => Parser.assignStmt room
  | .condition k closing => Parser.condition k closing room
  | .block context => Parser.block context room
  | .blockContents => Parser.blockContents room
  | .blockStmt => Parser.blockStmt room
  | .blockStmts => repeatWhile insideBlock (Parser.blockStmt room)
  | .statement => Parser.statement room
  | .functionRest type name parameters => Parser.functionRest type name parameters room
  | .typedDecl => Parser.typedDecl room
  | .declaration => Parser.declaration room
  | .declarations => repeatWhile (!·.isEmpty) (Parser.declaration room)
  | .program => Parser.program room

end SyntaxOutline
