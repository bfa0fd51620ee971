import SyntaxOutline.Token

/-!
# Programs

The abstract programs of the language. A program is a list of declarations: variables, functions
with and without a body, and structs. Literals are kept as they were written, and parentheses are
kept as a node of their own, so a program determines the tokens it was read from.
-/

namespace SyntaxOutline

/-- The types that a declaration can name. -/
inductive TypeName where
  | int | bool | double | void | char
  | struct (name : String)
deriving DecidableEq, Repr

namespace TypeName

/-- The name under which a type is shown. -/
def name : TypeName → String
  | int => "INT"
  | bool => "BOOL"
  | double => "DOUBLE"
  | void => "VOID"
  | char => "CHAR"
  | struct n => s!"STRUCT {n}"

/-- The tokens that a type is written with. -/
def tokens : TypeName → List Token
  | int => [.keyword .int]
  | bool => [.keyword .bool]
  | double => [.keyword .double]
  | void => [.keyword .void]
  | char => [.keyword .char]
  | struct n => [.keyword .struct, .ident n]

end TypeName

/-- An integer as it was written. -/
structure IntLiteral where
  text : String
deriving DecidableEq, Repr

/-- A real number as it was written. -/
structure RealLiteral where
  text : String
deriving DecidableEq, Repr

/-- Operators with one operand. -/
inductive UnaryOp where
  | negate | addressOf | not
deriving DecidableEq, Repr

namespace UnaryOp

/-- The mark in front of the operand. -/
def mark : UnaryOp → Mark
  | negate => .minus
  | addressOf => .ampersand
  | not => .not

/-- The operator that a mark in front of an operand stands for. -/
def ofMark? : Mark → Option UnaryOp
  | .minus => some negate
  | .ampersand => some addressOf
  | .not => some not
  | _ => none

theorem ofMark?_eq_some_iff {m : Mark} {op : UnaryOp} : ofMark? m = some op ↔ op.mark = m := by
  cases m <;> cases op <;> simp [ofMark?, mark]

end UnaryOp

/-- Operators with two operands. -/
inductive BinaryOp where
  | plus | minus | times | divide | modulo
  | bitAnd | bitOr
  | equals | notEquals | less | greater | lessEq | greaterEq
deriving DecidableEq, Repr

/-- How strongly an operator binds, from the loosest on. -/
inductive Level where
  | bitOr | bitAnd | equality | relational | additive | multiplicative
deriving DecidableEq, Repr

namespace Level

/-- The place of a level, 0 for the tightest. -/
def rank : Level → Nat
  | multiplicative => 0
  | additive => 1
  | relational => 2
  | equality => 3
  | bitAnd => 4
  | bitOr => 5

/-- The next tighter level. -/
def tighter? : Level → Option Level
  | bitOr => some bitAnd
  | bitAnd => some equality
  | equality => some relational
  | relational => some additive
  | additive => some multiplicative
  | multiplicative => none

theorem rank_lt_of_tighter? {l t : Level} (h : l.tighter? = some t) : t.rank < l.rank := by
  cases l <;> simp [tighter?] at h <;> subst h <;> decide

end Level

namespace BinaryOp

/-- The mark between the operands. -/
def mark : BinaryOp → Mark
  | plus => .plus
  | minus => .minus
  | times => .times
  | divide => .divide
  | modulo => .percent
  | bitAnd => .ampersand
  | bitOr => .bar
  | equals => .equals
  | notEquals => .notEquals
  | less => .less
  | greater => .greater
  | lessEq => .lessEq
  | greaterEq => .greaterEq

/-- The operator that a mark between two operands stands for. -/
def ofMark? : Mark → Option BinaryOp
  | .plus => some plus
  | .minus => some minus
  | .times => some times
  | .divide => some divide
  | .percent => some modulo
  | .ampersand => some bitAnd
  | .bar => some bitOr
  | .equals => some equals
  | .notEquals => some notEquals
  | .less => some less
  | .greater => some greater
  | .lessEq => some lessEq
  | .greaterEq => some greaterEq
  | _ => none

theorem ofMark?_eq_some_iff {m : Mark} {op : BinaryOp} : ofMark? m = some op ↔ op.mark = m := by
  cases m <;> cases op <;> simp [ofMark?, mark]

/-- How strongly the operator binds. -/
def level : BinaryOp → Level
  | bitOr => .bitOr
  | bitAnd => .bitAnd
  | equals | notEquals => .equality
  | less | greater | lessEq | greaterEq => .relational
  | plus | minus => .additive
  | times | divide | modulo => .multiplicative

end BinaryOp

mutual
/-- Expressions. -/
inductive Expr where
  | int (literal : IntLiteral)
  | real (literal : RealLiteral)
  | string (text : String)
  | char (text : String)
  | true_
  | false_
  | null
  | sizeof (name : String)
  | bounded (inner : Expr)
  | call (name : String) (arguments : List Expr)
  | place (place : Place)
  | unary (op : UnaryOp) (operand : Expr)
  | binary (op : BinaryOp) (left right : Expr)

/-- What can be assigned to: a variable, an element of an array, or a field. -/
inductive Place where
  | var (name : String)
  | element (base : Place) (index : Expr)
  | field (base : Place) (name : String)
end

/-- A call: a function's name and its arguments. -/
structure Call where
  name : String
  arguments : List Expr

/-- An assignment. -/
structure Assignment where
  place : Place
  value : Expr

/-- A declared variable; an array has a size. -/
structure VarDecl where
  type : TypeName
  name : String
  size? : Option IntLiteral
deriving DecidableEq, Repr

mutual
/-- Statements. -/
inductive Stmt where
  | assign (assignment : Assignment)
  | call (call : Call)
  | ifThen (condition : Expr) (body : Block)
  | ifElse (condition : Expr) (body other : Block)
  | forLoop (start? : Option Assignment) (condition : Expr) (step? : Option Assignment)
    (body : Block)
  | whileLoop (condition : Expr) (body : Block)
  | return_ (value? : Option Expr)

/-- A scope: declarations, then statements. -/
structure Block where
  decls : List VarDecl
  stmts : List Stmt
end

/-- A parameter of a function. -/
structure Formal where
  type : TypeName
  name : String
deriving DecidableEq, Repr

/-- Top-level declarations. -/
inductive Decl where
  | var (decl : VarDecl)
  | prototype (type : TypeName) (name : String) (formals : List Formal)
  | function (type : TypeName) (name : String) (formals : List Formal) (body : Block)
  | struct (name : String) (fields : List VarDecl)

/-- A whole program. -/
structure Program where
  decls : List Decl

end SyntaxOutline
