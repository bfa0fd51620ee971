import SyntaxOutline.Grammar.Parser

/-!
# Expressions

Recursive descent over six levels of operators, each associating to the left, then operators in
front of an operand, then literals, calls, places and parentheses.

`room` is the number of levels of nesting that may still be opened. A full expression, the operand
of an operator in front of it, each operator of a chain and each `[ ]` or `.` of a place open one.
What a chain opens is closed when the chain is finished; when it fails, its levels stay open. All
recursion is bounded by the room: nothing but a smaller room, or the next tighter form, is ever
asked for with the same room.
-/

namespace SyntaxOutline

namespace Parser

/-- Takes an operator of the given level, if one is next. -/
def operator? (level : Level) : Parser (Option BinaryOp) := fun ts =>
  match ts with
  | .mark m :: rest =>
    match BinaryOp.ofMark? m with
    | some op => if op.level = level then .ok (some op, rest) else .ok (none, ts)
    | none => .ok (none, ts)
  | _ => .ok (none, ts)

/-- Takes an operator that stands in front of its operand, if one is next. -/
def unaryOperator? : Parser (Option UnaryOp) := fun ts =>
  match ts with
  | .mark m :: rest =>
    match UnaryOp.ofMark? m with
    | some op => .ok (some op, rest)
    | none => .ok (none, ts)
  | _ => .ok (none, ts)

/-- Takes what follows the keyword of a size. -/
def sizeofOperand : Parser Expr := do
  expect .lparen (.afterKeyword .sizeof)
  let name ← identifier
  expect .rparen .afterSizeofOperand
  return .sizeof name

mutual

/-- A full expression, one level of nesting deeper. -/
def expression (room : Nat) : Parser Expr :=
  match room with
  | 0 => fail .nestingTooDeep
  | room + 1 => binary .bitOr room
termination_by 16 * room
decreasing_by simp [Level.rank]; omega

/-- Operands joined by the operators of a level. -/
def binary (level : Level) (room : Nat) : Parser Expr := do
  let left ← operand level room
  chain level room left
termination_by 16 * room + 2 * level.rank + 5

/-- An operand of the operators of a level. -/
def operand (level : Level) (room : Nat) : Parser Expr :=
  match _h : level.tighter? with
  | some tighter => binary tighter room
  | none => unary room
termination_by 16 * room + 2 * level.rank + 4
decreasing_by
  · have := Level.rank_lt_of_tighter? _h
    omega
  · omega

/-- What follows `left` in a chain of operators of one level. Each operator opens a level. -/
def chain (level : Level) (room : Nat) (left : Expr) : Parser Expr := do
  match ← operator? level with
  | none => return left
  | some op =>
    match room with
    | 0 => fail .nestingTooDeep
    -- All levels of a chain stay open until it ends, so a failure leaves them open.
    | room + 1 => keepOpen do
      let right ← operand level room
      chain level room (.binary op left right)
termination_by 16 * room + 1
decreasing_by all_goals (cases level <;> simp [Level.rank] <;> omega)

/-- An operand with the operators in front of it. Each operator opens a level. -/
def unary (room : Nat) : Parser Expr := do
  match ← unaryOperator? with
  | none => term room
  | some op =>
    match room with
    | 0 => fail .nestingTooDeep
    | room + 1 =>
      let operand ← unary room
      return .unary op operand
termination_by 16 * room + 3

/-- An operand without operators. -/
def term (room : Nat) : Parser Expr := fun ts =>
  match ts with
  | .intLit text :: rest => .ok (.int ⟨text⟩, rest)
  | .realLit text :: rest => .ok (.real ⟨text⟩, rest)
  | .stringLit text :: rest => .ok (.string text, rest)
  | .charLit text :: rest => .ok (.char text, rest)
  | .keyword .true_ :: rest => .ok (.true_, rest)
  | .keyword .false_ :: rest => .ok (.false_, rest)
  | .keyword .null :: rest => .ok (.null, rest)
  | .keyword .sizeof :: rest => sizeofOperand rest
  | .mark .lparen :: rest => bounded room rest
  -- Only the token behind a name tells a call from a place.
  | .ident name :: .mark .lparen :: rest => (Expr.call name <$> arguments room) rest
  | .ident name :: rest => (Expr.place <$> suffixes room (.var name)) rest
  | _ => fail .missingExpression ts
termination_by 16 * room + 2

/-- What follows an opening parenthesis. -/
def bounded (room : Nat) : Parser Expr := do
  let inner ← expression room
  expect .rparen .closingParentheses
  return .bounded inner
termination_by 16 * room + 1

/-- The arguments of a call, from behind the opening parenthesis. -/
def arguments (room : Nat) : Parser (List Expr) := do
  let args ← separatedUntil .rparen (expression room)
  expect .rparen .afterArguments
  return args
termination_by 16 * room + 1

/-- What follows a place: indices and fields. Each opens a level. -/
def suffixes (room : Nat) (base : Place) : Parser Place := fun ts =>
  match ts with
  | .mark .lbracket :: rest =>
    match room with
    -- The bracket is refused before it is taken.
    | 0 => fail .nestingTooDeep ts
    | room + 1 =>
      keepOpen (do
        let index ← expression room
        expect .rbracket .afterIndex
        suffixes room (.element base index)) rest
  | .mark .dot :: rest =>
    match room with
    | 0 => fail .nestingTooDeep ts
    | room + 1 =>
      keepOpen (do
        let name ← identifier
        suffixes room (.field base name)) rest
  | _ => .ok (base, ts)
termination_by 16 * room

end

/-- A place: a variable with its indices and fields. -/
def place (room : Nat) : Parser Place := do
  let name ← identifier
  suffixes room (.var name)

/-- A place, the assignment mark and a value. -/
def assignment (room : Nat) : Parser Assignment := do
  let place ← place room
  expect .assign .inAssignment
  let value ← expression room
  return ⟨place, value⟩

end Parser

end SyntaxOutline
