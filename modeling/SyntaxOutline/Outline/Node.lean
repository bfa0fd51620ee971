import SyntaxOutline.Outline.Item

/-!
# The outline of each kind of node

`outline d` of a node lists its items, the first of them at depth `d`. The parts of a node with a
header stand one level below the header; a block and a list's elements stand among the parts of the
node that holds them. Elements of a list of parameters or arguments have commas between them.
-/

namespace SyntaxOutline

namespace Item

/-- A header. -/
def header (d : Nat) (h : Header) : Item := ⟨d, .header h⟩

/-- A keyword. -/
def keyword (d : Nat) (k : Keyword) : Item := ⟨d, .token (.keyword k)⟩

/-- A mark. -/
def mark (d : Nat) (m : Mark) : Item := ⟨d, .token (.mark m)⟩

/-- An identifier. -/
def ident (d : Nat) (name : String) : Item := ⟨d, .token (.ident name)⟩

/-- An integer literal. -/
def int (d : Nat) (l : IntLiteral) : Item := ⟨d, .token (.intLit l.text)⟩

/-- A real literal. -/
def real (d : Nat) (l : RealLiteral) : Item := ⟨d, .token (.realLit l.text)⟩

/-- A type. -/
def type (d : Nat) (t : TypeName) : Item := ⟨d, .type t⟩

end Item

mutual
/-- The outline of an expression. -/
def Expr.outline (d : Nat) : Expr → List Item
  | .int l => [.int d l]
  | .real l => [.real d l]
  | .string text => [⟨d, .token (.stringLit text)⟩]
  | .char text => [⟨d, .token (.charLit text)⟩]
  | .true_ => [.keyword d .true_]
  | .false_ => [.keyword d .false_]
  | .null => [.keyword d .null]
  | .sizeof name =>
    [.header d .sizeofExpr, .keyword (d + 1) .sizeof, .mark (d + 1) .lparen, .ident (d + 1) name,
      .mark (d + 1) .rparen]
  | .bounded inner =>
    .header d .boundedExpr :: .mark (d + 1) .lparen :: inner.outline (d + 1) ++
      [.mark (d + 1) .rparen]
  | .call name arguments =>
    .header d .callExpr :: .ident (d + 1) name :: .mark (d + 1) .lparen ::
      .header (d + 1) .actualsList :: Expr.outlineList (d + 2) arguments ++ [.mark (d + 1) .rparen]
  | .place p => p.outline d
  | .unary op operand =>
    .header d (.unary op) :: .mark (d + 1) op.mark :: operand.outline (d + 1)
  | .binary op left right =>
    .header d (.binary op) :: left.outline (d + 1) ++ .mark (d + 1) op.mark :: right.outline (d + 1)

/-- The outlines of expressions, with commas between them. -/
def Expr.outlineList (d : Nat) : List Expr → List Item
  | [] => []
  | e :: es => e.outline d ++ Expr.outlineMore d es

/-- The outlines of expressions, with a comma before each. -/
def Expr.outlineMore (d : Nat) : List Expr → List Item
  | [] => []
  | e :: es => .mark d .comma :: e.outline d ++ Expr.outlineMore d es

/-- The outline of a place. -/
def Place.outline (d : Nat) : Place → List Item
  | .var name => [.ident d name]
  | .element base index =>
    .header d .arrayExpr :: base.outline (d + 1) ++ .mark (d + 1) .lbracket ::
      index.outline (d + 1) ++ [.mark (d + 1) .rbracket]
  | .field base name =>
    .header d .accessLoc :: base.outline (d + 1) ++ [.mark (d + 1) .dot, .ident (d + 1) name]
end

/-- The outline of the arguments of a call, with their header. -/
def Outline.actuals (d : Nat) (arguments : List Expr) : List Item :=
  .header d .actualsList :: Expr.outlineList (d + 1) arguments

/-- The outline of a call. -/
def Call.outline (d : Nat) (c : Call) : List Item := (Expr.call c.name c.arguments).outline d

/-- The outline of an assignment without the semicolon that may end it. -/
def Assignment.outlineClause (d : Nat) (a : Assignment) : List Item :=
  .header d .assignStmt :: a.place.outline (d + 1) ++ .mark (d + 1) .assign ::
    a.value.outline (d + 1)

/-- The outline of an assignment. -/
def Assignment.outline (d : Nat) (a : Assignment) : List Item :=
  a.outlineClause d ++ [.mark (d + 1) .semicolon]

/-- The items of an array's size. -/
def Outline.arraySize (d : Nat) : Option IntLiteral → List Item
  | none => []
  | some size => [.mark d .lbracket, .int d size, .mark d .rbracket]

/-- The outline of a variable. -/
def VarDecl.outline (d : Nat) (v : VarDecl) : List Item :=
  .header d .varDecl :: .type (d + 1) v.type :: .ident (d + 1) v.name ::
    Outline.arraySize (d + 1) v.size? ++ [.mark (d + 1) .semicolon]

/-- The outline of declared variables, with their header. -/
def Outline.varDecls (d : Nat) (vs : List VarDecl) : List Item :=
  .header d .varDeclList :: vs.flatMap (·.outline (d + 1))

/-- The outline of the start of a loop: an assignment, or the semicolon alone. -/
def Outline.forStart (d : Nat) : Option Assignment → List Item
  | none => [.mark d .semicolon]
  | some a => a.outline d

/-- The outline of the step of a loop, which no semicolon ends. -/
def Outline.forStep (d : Nat) : Option Assignment → List Item
  | none => []
  | some a => a.outlineClause d

/-- The outline of a value that may be missing. -/
def Outline.value? (d : Nat) : Option Expr → List Item
  | none => []
  | some e => e.outline d

/-- The items of a condition: its keyword, and the condition in parentheses. -/
def Outline.condition (d : Nat) (k : Keyword) (condition : Expr) : List Item :=
  .keyword d k :: .mark d .lparen :: condition.outline d ++ [.mark d .rparen]

mutual
/-- The outline of a statement. -/
def Stmt.outline (d : Nat) : Stmt → List Item
  | .assign a => a.outline d
  | .call c => .header d .callStmt :: c.outline (d + 1) ++ [.mark (d + 1) .semicolon]
  | .ifThen c body => .header d .ifStmt :: Outline.condition (d + 1) .if_ c ++ body.outline (d + 1)
  | .ifElse c body other =>
    .header d .ifElseStmt :: Outline.condition (d + 1) .if_ c ++ body.outline (d + 1) ++
      .keyword (d + 1) .else_ :: other.outline (d + 1)
  | .forLoop start? c step? body =>
    .header d .forStmt :: .keyword (d + 1) .for_ :: .mark (d + 1) .lparen ::
      Outline.forStart (d + 1) start? ++ c.outline (d + 1) ++ .mark (d + 1) .semicolon ::
      Outline.forStep (d + 1) step? ++ .mark (d + 1) .rparen :: body.outline (d + 1)
  | .whileLoop c body =>
    .header d .whileStmt :: Outline.condition (d + 1) .while_ c ++ body.outline (d + 1)
  | .return_ e? =>
    .header d .returnStmt :: .keyword (d + 1) .return_ :: Outline.value? (d + 1) e? ++
      [.mark (d + 1) .semicolon]

/-- The outlines of statements, one after the other. -/
def Stmt.outlineAll (d : Nat) : List Stmt → List Item
  | [] => []
  | s :: ss => s.outline d ++ Stmt.outlineAll d ss

/-- The outline of a block. -/
def Block.outline (d : Nat) : Block → List Item
  | ⟨decls, stmts⟩ =>
    .mark d .lcurly :: Outline.varDecls d decls ++
      .header d .stmtList :: Stmt.outlineAll (d + 1) stmts ++ [.mark d .rcurly]
end

/-- The outline of statements, with their header. -/
def Outline.stmts (d : Nat) (ss : List Stmt) : List Item :=
  .header d .stmtList :: Stmt.outlineAll (d + 1) ss

/-- The outline of a parameter. -/
def Formal.outline (d : Nat) (f : Formal) : List Item :=
  [.header d .formalDecl, .type (d + 1) f.type, .ident (d + 1) f.name]

/-- The outlines of parameters, with a comma before each. -/
def Outline.formalsMore (d : Nat) (fs : List Formal) : List Item :=
  fs.flatMap fun f => .mark d .comma :: f.outline d

/-- The outline of the parameters of a function, with their header. -/
def Outline.formals (d : Nat) : List Formal → List Item
  | [] => [.header d .formalsList]
  | f :: fs => .header d .formalsList :: f.outline (d + 1) ++ Outline.formalsMore (d + 1) fs

/-- The items of a function up to its parameters. -/
def Outline.signature (d : Nat) (t : TypeName) (name : String) (fs : List Formal) : List Item :=
  .type d t :: .ident d name :: .mark d .lparen :: Outline.formals d fs ++ [.mark d .rparen]

/-- The outline of a declaration. -/
def Decl.outline (d : Nat) : Decl → List Item
  | .var v => v.outline d
  | .prototype t name fs =>
    .header d .funcDecl :: Outline.signature (d + 1) t name fs ++ [.mark (d + 1) .semicolon]
  | .function t name fs body =>
    .header d .funcDef :: Outline.signature (d + 1) t name fs ++ .header (d + 1) .funcBody ::
      body.outline (d + 2)
  | .struct name fields =>
    .header d .structDecl :: .keyword (d + 1) .struct :: .ident (d + 1) name ::
      .mark (d + 1) .lcurly :: Outline.varDecls (d + 1) fields ++
      [.mark (d + 1) .rcurly, .mark (d + 1) .semicolon]

/-- The outline of declarations, with their header. -/
def Outline.decls (d : Nat) (ds : List Decl) : List Item :=
  .header d .declList :: ds.flatMap (·.outline (d + 1))

/-- The outline of a program. -/
def Program.outline (d : Nat) (p : Program) : List Item :=
  .header d .program :: Outline.decls (d + 1) p.decls

/-- The text of a program's outline. -/
def Program.outlineText (unit : String) (p : Program) : String :=
  SyntaxOutline.outlineText unit (p.outline 0)

end SyntaxOutline
