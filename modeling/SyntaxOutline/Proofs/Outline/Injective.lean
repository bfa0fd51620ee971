import SyntaxOutline.Program.Equality
import SyntaxOutline.Proofs.Outline.Shape

/-!
# Nodes that are printed alike are the same

Every kind of node that has an outline can be printed by itself, at any depth. Two nodes of one kind
are printed alike exactly if they are the same, as long as no name and no literal in them holds a
line feed and the indentation is made of spaces, or of nothing at all.

That holds of all trees, also of those that no source spells: where two trees have the same tokens,
the headers tell them apart.
-/

namespace SyntaxOutline

/-- The kinds of nodes that can be printed by themselves. -/
inductive NodeKind where
  | program | declList | varDeclList | formalsList | stmtList | actualsList
  | decl | varDecl | funcDecl | funcDef | structDecl | formalDecl | type
  | block | stmt | assignStmt
  | expr | callExpr | place | ident | intLiteral | realLiteral
deriving DecidableEq, Repr

namespace NodeKind

/-- The nodes of a kind. -/
abbrev Tree : NodeKind → Type
  | program => Program
  | declList => List Decl
  | varDeclList => List VarDecl
  | formalsList => List Formal
  | stmtList => List Stmt
  | actualsList => List Expr
  | decl => Decl
  | varDecl => VarDecl
  | funcDecl => TypeName × String × List Formal
  | funcDef => TypeName × String × List Formal × Block
  | structDecl => String × List VarDecl
  | formalDecl => Formal
  | type => TypeName
  | block => Block
  | stmt => Stmt
  | assignStmt => Assignment
  | expr => Expr
  | callExpr => Call
  | place => Place
  | ident => String
  | intLiteral => IntLiteral
  | realLiteral => RealLiteral

/-- The outline of a node. -/
def outline (d : Nat) : (k : NodeKind) → k.Tree → List Item
  | program, p => Program.outline d p
  | declList, ds => Outline.decls d ds
  | varDeclList, vs => Outline.varDecls d vs
  | formalsList, fs => Outline.formals d fs
  | stmtList, ss => Outline.stmts d ss
  | actualsList, es => Outline.actuals d es
  | decl, c => Decl.outline d c
  | varDecl, v => VarDecl.outline d v
  | funcDecl, (t, name, fs) => (Decl.prototype t name fs).outline d
  | funcDef, (t, name, fs, body) => (Decl.function t name fs body).outline d
  | structDecl, (name, fields) => (Decl.struct name fields).outline d
  | formalDecl, f => Formal.outline d f
  | type, t => [.type d t]
  | block, b => Block.outline d b
  | stmt, s => Stmt.outline d s
  | assignStmt, a => Assignment.outline d a
  | expr, e => Expr.outline d e
  | callExpr, c => Call.outline d c
  | place, p => Place.outline d p
  | ident, name => [.ident d name]
  | intLiteral, l => [.int d l]
  | realLiteral, l => [.real d l]

/-- The tokens of a node. -/
def tokens : (k : NodeKind) → k.Tree → List Token
  | program, p => Program.tokens p
  | declList, ds => List.flatMap Decl.tokens ds
  | varDeclList, vs => List.flatMap VarDecl.tokens vs
  | formalsList, fs => separatedBy (.mark .comma) Formal.tokens fs
  | stmtList, ss => Stmt.tokensAll ss
  | actualsList, es => Expr.tokensList es
  | decl, c => Decl.tokens c
  | varDecl, v => VarDecl.tokens v
  | funcDecl, (t, name, fs) => (Decl.prototype t name fs).tokens
  | funcDef, (t, name, fs, body) => (Decl.function t name fs body).tokens
  | structDecl, (name, fields) => (Decl.struct name fields).tokens
  | formalDecl, f => Formal.tokens f
  | type, t => TypeName.tokens t
  | block, b => Block.tokens b
  | stmt, s => Stmt.tokens s
  | assignStmt, a => Assignment.tokens a ++ [.mark .semicolon]
  | expr, e => Expr.tokens e
  | callExpr, c => (Expr.call c.name c.arguments).tokens
  | place, p => Place.tokens p
  | ident, name => [.ident name]
  | intLiteral, l => [.intLit l.text]
  | realLiteral, l => [.realLit l.text]

/-- The names and literals of a node. -/
def texts (k : NodeKind) (a : k.Tree) : List String := (k.tokens a).filterMap Token.text?

/-- Tests two nodes of a kind for equality. -/
def same : (k : NodeKind) → k.Tree → k.Tree → Bool
  | program, p, q => Program.same p q
  | declList, ds, es => sameAll Decl.same ds es
  | varDeclList, vs, ws => sameAll VarDecl.same vs ws
  | formalsList, fs, gs => sameAll Formal.same fs gs
  | stmtList, ss, ts => Stmt.sameList ss ts
  | actualsList, es, fs => Expr.sameList es fs
  | decl, c, d => Decl.same c d
  | varDecl, v, w => VarDecl.same v w
  | funcDecl, (t, name, fs), (t', name', fs') =>
    (Decl.prototype t name fs).same (.prototype t' name' fs')
  | funcDef, (t, name, fs, body), (t', name', fs', body') =>
    (Decl.function t name fs body).same (.function t' name' fs' body')
  | structDecl, (name, fields), (name', fields') =>
    (Decl.struct name fields).same (.struct name' fields')
  | formalDecl, f, g => Formal.same f g
  | type, t, u => t == u
  | block, a, b => Block.same a b
  | stmt, s, t => Stmt.same s t
  | assignStmt, a, b => Assignment.same a b
  | expr, e, f => Expr.same e f
  | callExpr, a, b => Call.same a b
  | place, p, q => Place.same p q
  | ident, name, name' => name == name'
  | intLiteral, l, l' => IntLiteral.same l l'
  | realLiteral, l, l' => RealLiteral.same l l'

/-- The comparison of nodes decides their equality. -/
theorem same_iff : ∀ (k : NodeKind) (a b : k.Tree), k.same a b = true ↔ a = b
  | program, p, q => Program.same_iff p q
  | declList, ds, es => sameAll_iff Decl.same_iff ds es
  | varDeclList, vs, ws => sameAll_iff VarDecl.same_iff vs ws
  | formalsList, fs, gs => sameAll_iff Formal.same_iff fs gs
  | stmtList, ss, ts => Stmt.sameList_iff ss ts
  | actualsList, es, fs => Expr.sameList_iff es fs
  | decl, c, d => Decl.same_iff c d
  | varDecl, v, w => VarDecl.same_iff v w
  | funcDecl, (t, name, fs), (t', name', fs') => by
    refine (Decl.same_iff (.prototype t name fs) (.prototype t' name' fs')).trans ?_
    rw [Decl.prototype.injEq, Prod.mk.injEq, Prod.mk.injEq]
  | funcDef, (t, name, fs, body), (t', name', fs', body') => by
    refine (Decl.same_iff (.function t name fs body) (.function t' name' fs' body')).trans ?_
    rw [Decl.function.injEq, Prod.mk.injEq, Prod.mk.injEq, Prod.mk.injEq]
  | structDecl, (name, fields), (name', fields') => by
    refine (Decl.same_iff (.struct name fields) (.struct name' fields')).trans ?_
    rw [Decl.struct.injEq, Prod.mk.injEq]
  | formalDecl, f, g => Formal.same_iff f g
  | type, _, _ => beq_iff_eq
  | block, a, b => Block.same_iff a b
  | stmt, s, t => Stmt.same_iff s t
  | assignStmt, a, b => Assignment.same_iff a b
  | expr, e, f => Expr.same_iff e f
  | callExpr, a, b => Call.same_iff a b
  | place, p, q => Place.same_iff p q
  | ident, _, _ => beq_iff_eq
  | intLiteral, l, l' => IntLiteral.same_iff l l'
  | realLiteral, l, l' => RealLiteral.same_iff l l'

/-- The outline of a node shows the tokens of the node. -/
theorem outlineTokens_outline (d : Nat) : ∀ (k : NodeKind) (a : k.Tree),
    outlineTokens (k.outline d a) = k.tokens a
  | program, p => Program.outlineTokens_outline p d
  | declList, ds => outlineTokens_flatMap (fun c : Decl => c.outlineTokens_outline (d + 1)) ds
  | varDeclList, vs => Outline.outlineTokens_varDecls vs d
  | formalsList, fs => Outline.outlineTokens_formals fs d
  | stmtList, ss => Stmt.outlineTokens_outlineAll ss (d + 1)
  | actualsList, es => Expr.outlineTokens_outlineList es (d + 1)
  | decl, c => Decl.outlineTokens_outline c d
  | varDecl, v => VarDecl.outlineTokens_outline v d
  | funcDecl, (t, name, fs) => Decl.outlineTokens_outline (.prototype t name fs) d
  | funcDef, (t, name, fs, body) => Decl.outlineTokens_outline (.function t name fs body) d
  | structDecl, (name, fields) => Decl.outlineTokens_outline (.struct name fields) d
  | formalDecl, f => Formal.outlineTokens_outline f d
  | type, t => List.append_nil (TypeName.tokens t)
  | block, b => Block.outlineTokens_outline b d
  | stmt, s => Stmt.outlineTokens_outline s d
  | assignStmt, a => Assignment.outlineTokens_outline a d
  | expr, e => Expr.outlineTokens_outline e d
  | callExpr, c => Expr.outlineTokens_outline (.call c.name c.arguments) d
  | place, p => Place.outlineTokens_outline p d
  | ident, _ | intLiteral, _ | realLiteral, _ => rfl

/-- The entries of an outline give back the node. -/
theorem eq_of_shown (d : Nat) : ∀ (k : NodeKind) (a b : k.Tree),
    shown (k.outline d a) = shown (k.outline d b) → a = b
  | program, ⟨_⟩, ⟨_⟩, h => congrArg Program.mk (Outline.eq_of_decls (List.cons.inj h).2)
  | declList, _, _, h => Outline.eq_of_decls h
  | varDeclList, vs, ws, h =>
    (Outline.determined_varDecls d vs ws .nil .nil (congrArg (· ++ []) h)).1
  | formalsList, fs, gs, h =>
    (Outline.determined_formals d fs gs .nil .nil (congrArg (· ++ []) h)).1
  | stmtList, ss, ts, h =>
    (Stmt.determined_list (Stmt.determined_all ss (d + 1)) ts (by nofun) (by nofun)
      (congrArg (· ++ []) (List.cons.inj h).2)).1
  | actualsList, es, fs, h =>
    (Expr.determined_list (Expr.determined_all es (d + 1)) fs .nil .nil
      (congrArg (· ++ []) (List.cons.inj h).2)).1
  | decl, c, _, h => (Decl.determined d c).eq h
  | varDecl, v, _, h => (VarDecl.determined d v).eq h
  -- A node that is a declaration without its wrapper is compared as the declaration.
  | funcDecl, (t, name, fs), (t', name', fs'), h => by
    have heq : Decl.prototype t name fs = .prototype t' name' fs' := (Decl.determined d _).eq h
    cases heq
    rfl
  | funcDef, (t, name, fs, body), (t', name', fs', body'), h => by
    have heq : Decl.function t name fs body = .function t' name' fs' body' :=
      (Decl.determined d _).eq h
    cases heq
    rfl
  | structDecl, (name, fields), (name', fields'), h => by
    have heq : Decl.struct name fields = .struct name' fields' := (Decl.determined d _).eq h
    cases heq
    rfl
  | formalDecl, f, _, h => (Formal.determined d f).eq h
  | type, _, _, h => Entry.type.inj (List.cons.inj h).1
  | block, b, _, h => (Block.determined b d).eq h
  | stmt, s, _, h => (Stmt.determined s d).eq h
  | assignStmt, a, _, h => (Assignment.determined d a).eq h
  | expr, e, _, h => (Expr.determined e d).eq h
  | callExpr, c, _, h => (Call.determined d c).eq h
  | place, p, _, h => (Place.determined p d).eq h
  | ident, _, _, h => Token.ident.inj (Entry.token.inj (List.cons.inj h).1)
  | intLiteral, _, _, h =>
    IntLiteral.text_inj.mp (Token.intLit.inj (Entry.token.inj (List.cons.inj h).1))
  | realLiteral, _, _, h =>
    RealLiteral.text_inj.mp (Token.realLit.inj (Entry.token.inj (List.cons.inj h).1))

/-- A node whose texts have no line feed is shown without one. -/
theorem oneLine_of_texts {k : NodeKind} {a : k.Tree} (h : ∀ text ∈ k.texts a, '\n' ∉ text.toList)
    (d : Nat) : OneLine (outlineTokens (k.outline d a)) := by
  rw [outlineTokens_outline]
  intro t ht text htext
  exact h text (List.mem_filterMap.mpr ⟨t, ht, htext⟩)

end NodeKind

/-- Two nodes of one kind are printed as the same bytes exactly if they are the same. -/
theorem printed_eq_iff_same (k : NodeKind) (a b : k.Tree) (depth width : Nat)
    (ha : ∀ text ∈ k.texts a, '\n' ∉ text.toList) (hb : ∀ text ∈ k.texts b, '\n' ∉ text.toList) :
    printed (spaces width) (k.outline depth a) = printed (spaces width) (k.outline depth b) ↔
      k.same a b = true := by
  rw [NodeKind.same_iff]
  constructor
  · intro h
    have hshown := shown_eq_of_printed_eq (NodeKind.oneLine_of_texts ha depth)
      (NodeKind.oneLine_of_texts hb depth) h
    exact NodeKind.eq_of_shown depth k a b hshown
  · rintro rfl
    rfl

/-- A difference of three operands that starts with the first two. -/
def leftGrouped : Expr :=
  .binary .minus (.binary .minus (.place (.var "a")) (.place (.var "b"))) (.real ⟨"1e999"⟩)

/-- The same tokens, grouped the other way. -/
def rightGrouped : Expr :=
  .binary .minus (.place (.var "a")) (.binary .minus (.place (.var "b")) (.real ⟨"1e999"⟩))

/-- Without any indentation, what has the same tokens is still printed differently; and a literal
whose value is not finite is the same as itself. -/
theorem printed_grouped :
    leftGrouped.tokens = rightGrouped.tokens ∧
      printed (spaces 0) (leftGrouped.outline 0) ≠ printed (spaces 0) (rightGrouped.outline 0) ∧
      leftGrouped.same leftGrouped = true := by
  refine ⟨rfl, ?_, ?_⟩
  · intro h
    have hsame := (printed_eq_iff_same .expr leftGrouped rightGrouped 0 0 (by decide) (by decide)).mp h
    revert hsame
    decide
  · exact (printed_eq_iff_same .expr leftGrouped leftGrouped 0 0 (by decide) (by decide)).mp rfl

end SyntaxOutline
