import SyntaxOutline.Outline.Node

/-!
# The tokens of a program

`tokens` of a node lists the tokens that the node is written with, from its shape alone. It is the
printer that belongs to the parser: a parser that gives a node has taken exactly the node's tokens.

An outline shows the same tokens between its headers, at whatever depth it starts
(`outlineTokens_outline` of each kind of node).
-/

namespace SyntaxOutline

/-- What the elements of a list come to, with a separator between any two of them. -/
def separatedBy {α β : Type} (separator : β) (f : α → List β) : List α → List β
  | [] => []
  | a :: as => f a ++ as.flatMap fun b => separator :: f b

mutual
/-- The tokens of an expression. -/
def Expr.tokens : Expr → List Token
  | .int l => [.intLit l.text]
  | .real l => [.realLit l.text]
  | .string text => [.stringLit text]
  | .char text => [.charLit text]
  | .true_ => [.keyword .true_]
  | .false_ => [.keyword .false_]
  | .null => [.keyword .null]
  | .sizeof name => [.keyword .sizeof, .mark .lparen, .ident name, .mark .rparen]
  | .bounded inner => .mark .lparen :: (inner.tokens ++ [.mark .rparen])
  | .call name arguments =>
    .ident name :: .mark .lparen :: (Expr.tokensList arguments ++ [.mark .rparen])
  | .place p => p.tokens
  | .unary op operand => .mark op.mark :: operand.tokens
  | .binary op left right => left.tokens ++ .mark op.mark :: right.tokens

/-- The tokens of expressions, with commas between them. -/
def Expr.tokensList : List Expr → List Token
  | [] => []
  | e :: es => e.tokens ++ Expr.tokensMore es

/-- The tokens of expressions, with a comma before each. -/
def Expr.tokensMore : List Expr → List Token
  | [] => []
  | e :: es => .mark .comma :: (e.tokens ++ Expr.tokensMore es)

/-- The tokens of a place. -/
def Place.tokens : Place → List Token
  | .var name => [.ident name]
  | .element base index => base.tokens ++ .mark .lbracket :: (index.tokens ++ [.mark .rbracket])
  | .field base name => base.tokens ++ [.mark .dot, .ident name]
end

/-- Arguments behind the first, each with its comma. -/
theorem Expr.tokensMore_eq (es : List Expr) :
    Expr.tokensMore es = es.flatMap fun e => .mark .comma :: e.tokens := by
  induction es with
  | nil => rfl
  | cons e es ih => simp [Expr.tokensMore, ih]

/-- Arguments, with commas between them. -/
theorem Expr.tokensList_eq (es : List Expr) :
    Expr.tokensList es = separatedBy (.mark .comma) Expr.tokens es := by
  cases es with
  | nil => rfl
  | cons e es => rw [Expr.tokensList, Expr.tokensMore_eq, separatedBy]

/-- The tokens of an assignment, without the semicolon that may end it. -/
def Assignment.tokens (a : Assignment) : List Token :=
  a.place.tokens ++ .mark .assign :: a.value.tokens

/-- The tokens of an assignment that may be missing. -/
def Assignment.tokens? (a? : Option Assignment) : List Token := (a?.map Assignment.tokens).getD []

/-- The tokens of a value that may be missing. -/
def Expr.tokens? (e? : Option Expr) : List Token := (e?.map Expr.tokens).getD []

/-- The tokens of an array's size. -/
def VarDecl.sizeTokens : Option IntLiteral → List Token
  | none => []
  | some size => [.mark .lbracket, .intLit size.text, .mark .rbracket]

/-- The tokens of a variable. -/
def VarDecl.tokens (v : VarDecl) : List Token :=
  v.type.tokens ++ .ident v.name :: (VarDecl.sizeTokens v.size? ++ [.mark .semicolon])

/-- The tokens of a condition behind its keyword. -/
def Stmt.conditionTokens (k : Keyword) (c : Expr) : List Token :=
  .keyword k :: .mark .lparen :: (c.tokens ++ [.mark .rparen])

mutual
/-- The tokens of a statement. -/
def Stmt.tokens : Stmt → List Token
  | .assign a => a.tokens ++ [.mark .semicolon]
  | .call c => (Expr.call c.name c.arguments).tokens ++ [.mark .semicolon]
  | .ifThen c body => Stmt.conditionTokens .if_ c ++ body.tokens
  | .ifElse c body other =>
    Stmt.conditionTokens .if_ c ++ (body.tokens ++ .keyword .else_ :: other.tokens)
  | .forLoop start? c step? body =>
    .keyword .for_ :: .mark .lparen :: (Assignment.tokens? start? ++ .mark .semicolon ::
      (c.tokens ++ .mark .semicolon :: (Assignment.tokens? step? ++ .mark .rparen :: body.tokens)))
  | .whileLoop c body => Stmt.conditionTokens .while_ c ++ body.tokens
  | .return_ e? => .keyword .return_ :: (Expr.tokens? e? ++ [.mark .semicolon])

/-- The tokens of statements, one after the other. -/
def Stmt.tokensAll : List Stmt → List Token
  | [] => []
  | s :: ss => s.tokens ++ Stmt.tokensAll ss

/-- The tokens of a block. -/
def Block.tokens : Block → List Token
  | ⟨decls, stmts⟩ =>
    .mark .lcurly :: (decls.flatMap VarDecl.tokens ++ (Stmt.tokensAll stmts ++ [.mark .rcurly]))
end

/-- The tokens of a parameter. -/
def Formal.tokens (f : Formal) : List Token := f.type.tokens ++ [.ident f.name]

/-- The tokens of a function up to its parameters. -/
def Decl.signatureTokens (type : TypeName) (name : String) (formals : List Formal) : List Token :=
  type.tokens ++ .ident name :: .mark .lparen ::
    (separatedBy (.mark .comma) Formal.tokens formals ++ [.mark .rparen])

/-- The tokens of a declaration. -/
def Decl.tokens : Decl → List Token
  | .var v => v.tokens
  | .prototype type name formals =>
    Decl.signatureTokens type name formals ++ [.mark .semicolon]
  | .function type name formals body => Decl.signatureTokens type name formals ++ body.tokens
  | .struct name fields =>
    .keyword .struct :: .ident name :: .mark .lcurly ::
      (fields.flatMap VarDecl.tokens ++ [.mark .rcurly, .mark .semicolon])

/-- The tokens of a program. -/
def Program.tokens (p : Program) : List Token := p.decls.flatMap Decl.tokens

/-! ## An outline shows the tokens of its node -/

@[simp] theorem outlineTokens_nil : outlineTokens [] = [] := rfl

@[simp] theorem outlineTokens_cons (i : Item) (is : List Item) :
    outlineTokens (i :: is) = i.entry.tokens ++ outlineTokens is := rfl

@[simp] theorem outlineTokens_append (is js : List Item) :
    outlineTokens (is ++ js) = outlineTokens is ++ outlineTokens js := List.flatMap_append

@[simp] theorem Item.tokens_header (d : Nat) (h : Header) : (Item.header d h).entry.tokens = [] :=
  rfl

@[simp] theorem Item.tokens_keyword (d : Nat) (k : Keyword) :
    (Item.keyword d k).entry.tokens = [.keyword k] := rfl

@[simp] theorem Item.tokens_mark (d : Nat) (m : Mark) : (Item.mark d m).entry.tokens = [.mark m] :=
  rfl

@[simp] theorem Item.tokens_ident (d : Nat) (name : String) :
    (Item.ident d name).entry.tokens = [.ident name] := rfl

@[simp] theorem Item.tokens_int (d : Nat) (l : IntLiteral) :
    (Item.int d l).entry.tokens = [.intLit l.text] := rfl

@[simp] theorem Item.tokens_real (d : Nat) (l : RealLiteral) :
    (Item.real d l).entry.tokens = [.realLit l.text] := rfl

@[simp] theorem Item.tokens_type (d : Nat) (t : TypeName) :
    (Item.type d t).entry.tokens = t.tokens := rfl

/-- Outlines one after the other show the tokens of the nodes one after the other. -/
theorem outlineTokens_flatMap {α : Type} {outline : α → List Item} {tokens : α → List Token}
    (h : ∀ a, outlineTokens (outline a) = tokens a) (as : List α) :
    outlineTokens (as.flatMap outline) = as.flatMap tokens := by
  induction as with
  | nil => rfl
  | cons a as ih => rw [List.flatMap_cons, List.flatMap_cons, outlineTokens_append, h, ih]

mutual
/-- The outline of an expression shows its tokens, wherever it stands. -/
theorem Expr.outlineTokens_outline : ∀ (e : Expr) (d : Nat), outlineTokens (e.outline d) = e.tokens
  | .int _, _ | .real _, _ | .string _, _ | .char _, _ | .true_, _ | .false_, _ | .null, _
  | .sizeof _, _ => rfl
  | .bounded inner, d => by
    simp [Expr.outline, Expr.tokens, Expr.outlineTokens_outline inner]
  | .call name arguments, d => by
    simp [Expr.outline, Expr.tokens, Expr.outlineTokens_outlineList arguments]
  | .place p, d => by simp [Expr.outline, Expr.tokens, Place.outlineTokens_outline p]
  | .unary op operand, d => by
    simp [Expr.outline, Expr.tokens, Expr.outlineTokens_outline operand]
  | .binary op left right, d => by
    simp [Expr.outline, Expr.tokens, Expr.outlineTokens_outline left,
      Expr.outlineTokens_outline right]

theorem Expr.outlineTokens_outlineList : ∀ (es : List Expr) (d : Nat),
    outlineTokens (Expr.outlineList d es) = Expr.tokensList es
  | [], _ => rfl
  | e :: es, d => by
    simp [Expr.outlineList, Expr.tokensList, Expr.outlineTokens_outline e,
      Expr.outlineTokens_outlineMore es]

theorem Expr.outlineTokens_outlineMore : ∀ (es : List Expr) (d : Nat),
    outlineTokens (Expr.outlineMore d es) = Expr.tokensMore es
  | [], _ => rfl
  | e :: es, d => by
    simp [Expr.outlineMore, Expr.tokensMore, Expr.outlineTokens_outline e,
      Expr.outlineTokens_outlineMore es]

theorem Place.outlineTokens_outline : ∀ (p : Place) (d : Nat),
    outlineTokens (p.outline d) = p.tokens
  | .var _, _ => rfl
  | .element base index, d => by
    simp [Place.outline, Place.tokens, Place.outlineTokens_outline base,
      Expr.outlineTokens_outline index]
  | .field base name, d => by
    simp [Place.outline, Place.tokens, Place.outlineTokens_outline base]
end

theorem Assignment.outlineTokens_outlineClause (a : Assignment) (d : Nat) :
    outlineTokens (a.outlineClause d) = a.tokens := by
  simp [Assignment.outlineClause, Assignment.tokens, Place.outlineTokens_outline,
    Expr.outlineTokens_outline]

/-- An assignment that is a statement shows its semicolon too. -/
theorem Assignment.outlineTokens_outline (a : Assignment) (d : Nat) :
    outlineTokens (a.outline d) = a.tokens ++ [.mark .semicolon] := by
  simp [Assignment.outline, Assignment.outlineTokens_outlineClause]

theorem VarDecl.outlineTokens_outline (v : VarDecl) (d : Nat) :
    outlineTokens (v.outline d) = v.tokens := by
  have hs : outlineTokens (Outline.arraySize (d + 1) v.size?) = VarDecl.sizeTokens v.size? := by
    cases v.size? <;> rfl
  simp [VarDecl.outline, VarDecl.tokens, hs]

theorem Outline.outlineTokens_varDecls (vs : List VarDecl) (d : Nat) :
    outlineTokens (Outline.varDecls d vs) = vs.flatMap VarDecl.tokens := by
  simp [Outline.varDecls,
    outlineTokens_flatMap fun v : VarDecl => VarDecl.outlineTokens_outline v (d + 1)]

theorem Outline.outlineTokens_condition (k : Keyword) (c : Expr) (d : Nat) :
    outlineTokens (Outline.condition d k c) = Stmt.conditionTokens k c := by
  simp [Outline.condition, Stmt.conditionTokens, Expr.outlineTokens_outline]

mutual
theorem Stmt.outlineTokens_outline : ∀ (s : Stmt) (d : Nat), outlineTokens (s.outline d) = s.tokens
  | .assign a, d => by simp [Stmt.outline, Stmt.tokens, Assignment.outlineTokens_outline]
  | .call c, d => by
    simp [Stmt.outline, Stmt.tokens, Call.outline, Expr.outlineTokens_outline]
  | .ifThen c body, d => by
    simp [Stmt.outline, Stmt.tokens, Outline.outlineTokens_condition,
      Block.outlineTokens_outline body]
  | .ifElse c body other, d => by
    simp [Stmt.outline, Stmt.tokens, Outline.outlineTokens_condition,
      Block.outlineTokens_outline body, Block.outlineTokens_outline other]
  | .forLoop start? c step? body, d => by
    have hstart : outlineTokens (Outline.forStart (d + 1) start?)
        = Assignment.tokens? start? ++ [.mark .semicolon] := by
      cases start? with
      | none => rfl
      | some a => exact Assignment.outlineTokens_outline a (d + 1)
    have hstep : outlineTokens (Outline.forStep (d + 1) step?) = Assignment.tokens? step? := by
      cases step? with
      | none => rfl
      | some a => exact Assignment.outlineTokens_outlineClause a (d + 1)
    simp [Stmt.outline, Stmt.tokens, hstart, hstep, Expr.outlineTokens_outline,
      Block.outlineTokens_outline body]
  | .whileLoop c body, d => by
    simp [Stmt.outline, Stmt.tokens, Outline.outlineTokens_condition,
      Block.outlineTokens_outline body]
  | .return_ e?, d => by
    have he : outlineTokens (Outline.value? (d + 1) e?) = Expr.tokens? e? := by
      cases e? with
      | none => rfl
      | some e => exact Expr.outlineTokens_outline e (d + 1)
    simp [Stmt.outline, Stmt.tokens, he]

theorem Stmt.outlineTokens_outlineAll : ∀ (ss : List Stmt) (d : Nat),
    outlineTokens (Stmt.outlineAll d ss) = Stmt.tokensAll ss
  | [], _ => rfl
  | s :: ss, d => by
    simp [Stmt.outlineAll, Stmt.tokensAll, Stmt.outlineTokens_outline s,
      Stmt.outlineTokens_outlineAll ss]

theorem Block.outlineTokens_outline : ∀ (b : Block) (d : Nat),
    outlineTokens (b.outline d) = b.tokens
  | ⟨decls, stmts⟩, d => by
    simp [Block.outline, Block.tokens, Outline.outlineTokens_varDecls,
      Stmt.outlineTokens_outlineAll stmts]
end

theorem Formal.outlineTokens_outline (f : Formal) (d : Nat) :
    outlineTokens (f.outline d) = f.tokens := by
  simp [Formal.outline, Formal.tokens]

theorem Outline.outlineTokens_formals (fs : List Formal) (d : Nat) :
    outlineTokens (Outline.formals d fs) = separatedBy (.mark .comma) Formal.tokens fs := by
  cases fs with
  | nil => rfl
  | cons f fs =>
    have hmore : outlineTokens (Outline.formalsMore (d + 1) fs)
        = fs.flatMap fun g => .mark .comma :: g.tokens :=
      outlineTokens_flatMap (fun g => by simp [Formal.outlineTokens_outline]) fs
    simp [Outline.formals, separatedBy, Formal.outlineTokens_outline, hmore]

theorem Outline.outlineTokens_signature (t : TypeName) (name : String) (fs : List Formal)
    (d : Nat) :
    outlineTokens (Outline.signature d t name fs) = Decl.signatureTokens t name fs := by
  simp [Outline.signature, Decl.signatureTokens, Outline.outlineTokens_formals]

theorem Decl.outlineTokens_outline (decl : Decl) (d : Nat) :
    outlineTokens (decl.outline d) = decl.tokens := by
  cases decl with
  | var v => exact VarDecl.outlineTokens_outline v d
  | prototype t name fs =>
    simp [Decl.outline, Decl.tokens, Outline.outlineTokens_signature]
  | function t name fs body =>
    simp [Decl.outline, Decl.tokens, Outline.outlineTokens_signature,
      Block.outlineTokens_outline]
  | struct name fields => simp [Decl.outline, Decl.tokens, Outline.outlineTokens_varDecls]

/-- The tokens that the outline of a program shows are those of the program. -/
theorem Program.outlineTokens_outline (p : Program) (d : Nat) :
    outlineTokens (p.outline d) = p.tokens := by
  simp [Program.outline, Outline.decls, Program.tokens,
    outlineTokens_flatMap fun decl : Decl => Decl.outlineTokens_outline decl (d + 2)]

end SyntaxOutline
