import SyntaxOutline.Lexer

/-!
# What can be wrong with a source

A source is refused for one of two reasons: a stretch of it is no token (`LexicalFault`), or a
token stands where the grammar has no use for it (`SyntaxFault`). Both are reported alike, as a
detail and a position; a syntax fault also names the token that was found.
-/

namespace SyntaxOutline

/-- The place in the grammar where a mark is missing. -/
inductive Context where
  | afterKeyword (k : Keyword)
  | afterIfCondition
  | afterWhileCondition
  | afterForStart
  | afterForCondition
  | afterForClauses
  | closingBlock (context : Context)
  | afterReturn
  | afterCall
  | afterAssignment
  | inAssignment
  | afterVariable
  | afterArraySize
  | afterParameters
  | beforeFunctionBody
  | afterFunctionBody
  | afterStructName
  | afterStructFields
  | afterStruct
  | afterArguments
  | afterSizeofOperand
  | afterIndex
  | closingParentheses
deriving DecidableEq, Repr

namespace Context

/-- How messages name the place. -/
def describe : Context → String
  | afterKeyword k => s!"after '{k.spelling}'"
  | afterIfCondition => "after if condition"
  | afterWhileCondition => "after while condition"
  | afterForStart => "after for init"
  | afterForCondition => "after for condition"
  | afterForClauses => "after for clauses"
  | closingBlock context => s!"to close block {context.describe}"
  | afterReturn => "after return"
  | afterCall => "after call"
  | afterAssignment => "after assignment"
  | inAssignment => "in assignment"
  | afterVariable => "after variable declaration"
  | afterArraySize => "after array size"
  | afterParameters => "after parameters"
  | beforeFunctionBody => "before function body"
  | afterFunctionBody => "after function body"
  | afterStructName => "after struct name"
  | afterStructFields => "after struct fields"
  | afterStruct => "after struct definition"
  | afterArguments => "after call arguments"
  | afterSizeofOperand => "after sizeof operand"
  | afterIndex => "after index"
  | closingParentheses => "to close parenthesized expression"

end Context

/-- Why the grammar has no use for a token. -/
inductive SyntaxFault where
  | missingMark (mark : Mark) (context : Context)
  | missingExpression
  | missingStatement
  | missingType
  | missingIdentifier
  | missingArraySize
  | lateDeclaration
  | nestingTooDeep
deriving DecidableEq, Repr

namespace SyntaxFault

/-- The wording of each fault. -/
def message : SyntaxFault → String
  | missingMark mark context => s!"Expected '{mark.spelling}' {context.describe}"
  | missingExpression => "Expected expression"
  | missingStatement => "Expected statement"
  | missingType => "Expected type"
  | missingIdentifier => "Expected identifier"
  | missingArraySize => "Array size must be an integer literal"
  | lateDeclaration => "Declarations must precede statements in a block"
  | nestingTooDeep => "Nesting too deep"

/-- The wording together with the token that was found, `none` at the end of the input. -/
def detail (fault : SyntaxFault) (found : Option Token) : String :=
  s!"{fault.message}, found {(found.map Token.describe).getD Token.endDescription}"

end SyntaxFault

/-- Why a source is refused. -/
inductive SourceFault where
  | lexical (fault : LexicalFault)
  | grammatical (fault : SyntaxFault) (found : Option Token)
deriving DecidableEq, Repr

/-- The wording of each reason. -/
def SourceFault.detail : SourceFault → String
  | lexical fault => fault.message
  | grammatical fault found => fault.detail found

/-- Why and where a source is refused. -/
structure SourceError where
  fault : SourceFault
  position : Position
deriving DecidableEq, Repr

namespace SourceError

/-- The reason alone. -/
def detail (e : SourceError) : String := e.fault.detail

/-- The whole message, with the position. -/
def message (e : SourceError) : String :=
  s!"Parse error at line {e.position.line}, column {e.position.column}: {e.detail}"

/-- A fault of the lexer, reported as the refusal of the source. -/
def ofLexical (e : LexicalError) : SourceError := ⟨.lexical e.fault, e.position⟩

end SourceError

end SyntaxOutline
