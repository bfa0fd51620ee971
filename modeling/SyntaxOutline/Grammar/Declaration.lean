import SyntaxOutline.Grammar.Parser

/-!
# Types, variables and parameters

The parts of a declaration that need no expressions: type names, variables with an optional array
size, and the parameters of a function.
-/

namespace SyntaxOutline

namespace Parser

/-- Whether the next token starts a type. -/
def startsType : List Token → Bool
  | t :: _ => t.startsType
  | [] => false

/-- The name of a type. -/
def typeName : Parser TypeName := fun ts =>
  match ts with
  | .keyword .int :: rest => .ok (.int, rest)
  | .keyword .bool :: rest => .ok (.bool, rest)
  | .keyword .double :: rest => .ok (.double, rest)
  | .keyword .void :: rest => .ok (.void, rest)
  | .keyword .char :: rest => .ok (.char, rest)
  | .keyword .struct :: rest => (TypeName.struct <$> identifier) rest
  | _ => fail .missingType ts

/-- The size of an array, from behind the opening bracket. -/
def arraySize : Parser IntLiteral := fun ts =>
  match ts with
  | .intLit text :: rest => .ok (⟨text⟩, rest)
  | _ => fail .missingArraySize ts

/-- What follows the type and the name of a variable. -/
def variableRest (type : TypeName) (name : String) : Parser VarDecl := do
  let size? ← if ← accept .lbracket then
      let size ← arraySize
      expect .rbracket .afterArraySize
      pure (some size)
    else pure none
  expect .semicolon .afterVariable
  return ⟨type, name, size?⟩

/-- The declaration of a variable. -/
def varDecl : Parser VarDecl := do
  let type ← typeName
  let name ← identifier
  variableRest type name

/-- Declarations of variables, as long as the next token starts a type. -/
def varDecls : Parser (List VarDecl) := repeatWhile startsType varDecl

/-- A parameter of a function. -/
def formal : Parser Formal := do
  let type ← typeName
  let name ← identifier
  return ⟨type, name⟩

/-- The parameters of a function, from behind the opening parenthesis. -/
def formals : Parser (List Formal) := do
  let formals ← separatedUntil .rparen formal
  expect .rparen .afterParameters
  return formals

/-- The name and the fields of a struct, from behind its keyword. A declaration is read this way
only if the brace is seen behind the name, so it is never missed there. -/
def structRest : Parser Decl := do
  let name ← identifier
  expect .lcurly .afterStructName
  let fields ← varDecls
  expect .rcurly .afterStructFields
  expect .semicolon .afterStruct
  return .struct name fields

end Parser

end SyntaxOutline
