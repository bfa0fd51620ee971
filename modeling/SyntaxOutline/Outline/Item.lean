import SyntaxOutline.Program

/-!
# The items of an outline

An outline shows a program as a list of items, each at a depth. An item is a header, which names a
node of the program and stands above its parts; a token; or the type of a declaration. Read without
the headers, an outline is the list of tokens of the program.

An item is shown on a line of its own: a label, and behind it in parentheses the value, for items
that have one.
-/

namespace SyntaxOutline

/-- The names of the nodes that have parts. -/
inductive Header where
  | program
  | declList
  | varDeclList
  | formalsList
  | stmtList
  | actualsList
  | varDecl
  | formalDecl
  | funcDecl
  | funcDef
  | funcBody
  | structDecl
  | assignStmt
  | callStmt
  | ifStmt
  | ifElseStmt
  | forStmt
  | whileStmt
  | returnStmt
  | sizeofExpr
  | boundedExpr
  | callExpr
  | arrayExpr
  | accessLoc
  | unary (op : UnaryOp)
  | binary (op : BinaryOp)
deriving DecidableEq, Repr

/-- The name of an operator's node. -/
def UnaryOp.name : UnaryOp → String
  | negate => "UnaryMinusExpr"
  | addressOf => "AddrOfExpr"
  | not => "NotExpr"

/-- The name of an operator's node. -/
def BinaryOp.name : BinaryOp → String
  | plus => "PlusExpr"
  | minus => "MinusExpr"
  | times => "TimesExpr"
  | divide => "DivideExpr"
  | modulo => "ModuloExpr"
  | bitAnd => "BitAndExpr"
  | bitOr => "BitOrExpr"
  | equals => "EqualsExpr"
  | notEquals => "NotEqualsExpr"
  | less => "LessExpr"
  | greater => "GreaterExpr"
  | lessEq => "LessEqExpr"
  | greaterEq => "GreaterEqExpr"

/-- The name of a header. -/
def Header.name : Header → String
  | program => "Program"
  | declList => "DeclList"
  | varDeclList => "VarDeclList"
  | formalsList => "FormalsList"
  | stmtList => "StmtList"
  | actualsList => "ActualsList"
  | varDecl => "VarDecl"
  | formalDecl => "FormalDecl"
  | funcDecl => "FuncDecl"
  | funcDef => "FuncDef"
  | funcBody => "FuncBody"
  | structDecl => "StructDecl"
  | assignStmt => "AssignStmt"
  | callStmt => "CallStmt"
  | ifStmt => "IfStmt"
  | ifElseStmt => "IfElseStmt"
  | forStmt => "ForStmt"
  | whileStmt => "WhileStmt"
  | returnStmt => "ReturnStmt"
  | sizeofExpr => "SizeofExpr"
  | boundedExpr => "BoundedExpr"
  | callExpr => "CallExpr"
  | arrayExpr => "ArrayExpr"
  | accessLoc => "AccessLoc"
  | unary op => op.name
  | binary op => op.name

/-- What an item shows. -/
inductive Entry where
  | header (header : Header)
  | token (token : Token)
  | type (type : TypeName)
deriving DecidableEq, Repr

namespace Entry

/-- What stands first on the line. -/
def label : Entry → String
  | header h => h.name
  | token t => t.name
  | type _ => "Type"

/-- What stands in parentheses behind the label. -/
def value? : Entry → Option String
  | header _ => none
  | token t => t.text?
  | type t => some t.name

/-- The tokens that the item stands for. -/
def tokens : Entry → List Token
  | header _ => []
  | token t => [t]
  | type t => t.tokens

end Entry

/-- An entry at a depth. -/
structure Item where
  depth : Nat
  entry : Entry
deriving DecidableEq, Repr

/-- What a line shows: a depth, a label and perhaps a value. -/
structure Line where
  depth : Nat
  label : String
  value? : Option String
deriving DecidableEq, Repr

namespace Line

/-- The line without its indentation and its end. -/
def body (l : Line) : String :=
  match l.value? with
  | none => l.label
  | some value => s!"{l.label} ({value})"

/-- The whole line: the unit once for each level of depth, the body, and a line feed. -/
def text (unit : String) (l : Line) : String :=
  String.join (List.replicate l.depth unit) ++ l.body ++ "\n"

end Line

/-- The line of an item. -/
def Item.line (i : Item) : Line := ⟨i.depth, i.entry.label, i.entry.value?⟩

/-- The unit by which lines are indented unless another is asked for. -/
def defaultIndent : String := "  "

/-- The text of an outline. -/
def outlineText (unit : String) (items : List Item) : String :=
  String.join (items.map fun i => i.line.text unit)

/-- The tokens of an outline. -/
def outlineTokens (items : List Item) : List Token := items.flatMap fun i => i.entry.tokens

end SyntaxOutline
