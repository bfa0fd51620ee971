import SyntaxOutline.Grammar.Declaration
import SyntaxOutline.Grammar.Expression

/-!
# Statements and blocks

A block opens one level of nesting for what stands between its braces. Its declarations come
before its statements; a declaration that comes later is refused.
-/

namespace SyntaxOutline

namespace Parser

/-- Whether there is a next token and it does not close a block. -/
def insideBlock : List Token → Bool
  | [] => false
  | .mark .rcurly :: _ => false
  | _ => true

/-- What follows the keyword of a return statement. -/
def returnRest (room : Nat) : Parser Stmt := do
  let value? ← unlessNext .semicolon (expression room)
  expect .semicolon .afterReturn
  return .return_ value?

/-- A call as a statement, from behind the opening parenthesis. -/
def callRest (name : String) (room : Nat) : Parser Stmt := do
  let args ← arguments room
  expect .semicolon .afterCall
  return .call ⟨name, args⟩

/-- An assignment as a statement. -/
def assignStmt (room : Nat) : Parser Stmt := do
  let assignment ← assignment room
  expect .semicolon .afterAssignment
  return .assign assignment

/-- A condition in its parentheses, behind the keyword `k`. -/
def condition (k : Keyword) (closing : Context) (room : Nat) : Parser Expr := do
  expect .lparen (.afterKeyword k)
  let condition ← expression room
  expect .rparen closing
  return condition

mutual

/-- A block in its braces, one level of nesting deeper. -/
def block (context : Context) (room : Nat) : Parser Block := do
  expect .lcurly context
  -- The brace is taken before there has to be room for a level.
  match room with
  | 0 => fail .nestingTooDeep
  | room + 1 =>
    let block ← blockContents room
    expect .rcurly (.closingBlock context)
    return block
termination_by 4 * room

/-- What stands between the braces of a block. -/
def blockContents (room : Nat) : Parser Block := do
  let decls ← varDecls
  let stmts ← repeatWhile insideBlock (blockStmt room)
  return ⟨decls, stmts⟩
termination_by 4 * room + 3

/-- A statement of a block, where a declaration would come too late. -/
def blockStmt (room : Nat) : Parser Stmt := fun ts =>
  if startsType ts then fail .lateDeclaration ts else statement room ts
termination_by 4 * room + 2

/-- A statement. -/
def statement (room : Nat) : Parser Stmt := fun ts =>
  match ts with
  | .keyword .return_ :: rest => returnRest room rest
  | .keyword .if_ :: rest =>
    (do
      let condition ← condition .if_ .afterIfCondition room
      let body ← block .afterIfCondition room
      if ← acceptKeyword .else_ then
        let other ← block (.afterKeyword .else_) room
        return .ifElse condition body other
      else
        return .ifThen condition body : Parser Stmt) rest
  | .keyword .while_ :: rest =>
    (do
      let condition ← condition .while_ .afterWhileCondition room
      let body ← block .afterWhileCondition room
      return .whileLoop condition body : Parser Stmt) rest
  | .keyword .for_ :: rest =>
    (do
      expect .lparen (.afterKeyword .for_)
      let start? ← unlessNext .semicolon (assignment room)
      expect .semicolon .afterForStart
      let condition ← expression room
      expect .semicolon .afterForCondition
      let step? ← unlessNext .rparen (assignment room)
      expect .rparen .afterForClauses
      let body ← block .afterForClauses room
      return .forLoop start? condition step? body : Parser Stmt) rest
  | .ident name :: .mark .lparen :: rest => callRest name room rest
  | .ident _ :: _ => assignStmt room ts
  | _ => fail .missingStatement ts
termination_by 4 * room + 1

end

/-- What follows the parameters of a function: nothing but a semicolon, or its body. -/
def functionRest (type : TypeName) (name : String) (formals : List Formal) (room : Nat) :
    Parser Decl := do
  if ← accept .semicolon then
    return .prototype type name formals
  else
    -- The braces of a body open no level, so this is no block.
    expect .lcurly .beforeFunctionBody
    let body ← blockContents room
    expect .rcurly .afterFunctionBody
    return .function type name formals body

/-- A declaration that starts with the name of a type. -/
def typedDecl (room : Nat) : Parser Decl := do
  let type ← typeName
  let name ← identifier
  if ← accept .lparen then
    let formals ← formals
    functionRest type name formals room
  else
    return .var (← variableRest type name)

/-- A top-level declaration. Two tokens behind its keyword, an opening brace tells a struct from a
variable or function of a struct type. -/
def declaration (room : Nat) : Parser Decl := fun ts =>
  match ts with
  | .keyword .struct :: second :: .mark .lcurly :: rest =>
    structRest (second :: .mark .lcurly :: rest)
  | _ => typedDecl room ts

/-- Declarations up to the end of the input. -/
def program (room : Nat) : Parser Program := do
  return ⟨← repeatWhile (!·.isEmpty) (declaration room)⟩

end Parser

end SyntaxOutline
