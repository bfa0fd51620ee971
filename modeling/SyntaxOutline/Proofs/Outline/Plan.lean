import SyntaxOutline.Proofs.Outline.Injective

/-!
# How an outline is put together

To write the outline of a node is to write some lines and the outlines of some of its parts. The
plan of a node (`NodeKind.plan`) says so as a tree: a header stands above what is one level deeper,
and a part stands for its own outline. A block is planned as several trees that stand side by side
among the parts of what holds it.

The tasks of a node (`NodeKind.tasks`) are its plan line by line, each with the levels that it is
deeper than the node. The outline is what the tasks write, one after the other (`outline_eq_tasks`).
A part is smaller than the node that it is a part of, or of a lower rank (`measure_lt`), so whatever
follows a plan into the parts comes to an end.
-/

namespace SyntaxOutline

/-- What is written for a node: lines, and the outlines of parts. -/
inductive OutlinePlan where
  | token (token : Token)
  | type (type : TypeName)
  /-- A header and what stands under it, at least one thing. -/
  | node (header : Header) (first : OutlinePlan) (others : List OutlinePlan)
  /-- A header and the elements of a list. -/
  | list (header : Header) (elements : List OutlinePlan)
  /-- The outline of a part. -/
  | part (kind : NodeKind) (tree : kind.Tree)

/-- What there is to do for the outline of a node: to write a line, or the outline of a part, either
of them some levels deeper than the node. -/
inductive OutlineTask where
  | line (deeper : Nat) (entry : Entry)
  | part (deeper : Nat) (kind : NodeKind) (tree : kind.Tree)

namespace OutlinePlan

/-- A keyword. -/
def keyword (k : Keyword) : OutlinePlan := token (.keyword k)

/-- A mark. -/
def mark (m : Mark) : OutlinePlan := token (.mark m)

/-- Parts of one kind with commas between them. -/
def separated (kind : NodeKind) : List kind.Tree → List OutlinePlan
  | [] => []
  | t :: ts => part kind t :: ts.flatMap fun u => [mark .comma, part kind u]

/-- What a function has between its type and its body or its semicolon. -/
def signature (name : String) (fs : List Formal) : List OutlinePlan :=
  [part .ident name, mark .lparen, part .formalsList fs, mark .rparen]

/-- An assignment, with what ends it. -/
def assignment (a : Assignment) (ending : List OutlinePlan) : OutlinePlan :=
  node .assignStmt (part .place a.place) (mark .assign :: part .expr a.value :: ending)

/-- A statement that starts with a keyword and a condition in parentheses. -/
def conditional (h : Header) (k : Keyword) (c : Expr) (others : List OutlinePlan) : OutlinePlan :=
  node h (keyword k) (mark .lparen :: part .expr c :: mark .rparen :: others)

mutual
/-- A plan line by line, starting so many levels deeper than the node. -/
def tasks (deeper : Nat) : OutlinePlan → List OutlineTask
  | token t => [.line deeper (.token t)]
  | type t => [.line deeper (.type t)]
  | node h first others =>
    .line deeper (.header h) :: first.tasks (deeper + 1) ++ tasksAll (deeper + 1) others
  | list h elements => .line deeper (.header h) :: tasksAll (deeper + 1) elements
  | part kind tree => [.part deeper kind tree]

/-- Plans that stand side by side. -/
def tasksAll (deeper : Nat) : List OutlinePlan → List OutlineTask
  | [] => []
  | p :: ps => p.tasks deeper ++ tasksAll deeper ps
end

end OutlinePlan

/-! ## The plan of every node -/

open OutlinePlan in
/-- The plan of an expression. -/
def Expr.plan : Expr → OutlinePlan
  | .int l => part .intLiteral l
  | .real l => part .realLiteral l
  | .string text => token (.stringLit text)
  | .char text => token (.charLit text)
  | .true_ => keyword .true_
  | .false_ => keyword .false_
  | .null => keyword .null
  | .sizeof name =>
    node .sizeofExpr (keyword .sizeof) [mark .lparen, part .ident name, mark .rparen]
  | .bounded inner => node .boundedExpr (mark .lparen) [part .expr inner, mark .rparen]
  | .call name arguments => part .callExpr ⟨name, arguments⟩
  | .place p => part .place p
  | .unary op operand => node (.unary op) (mark op.mark) [part .expr operand]
  | .binary op left right =>
    node (.binary op) (part .expr left) [mark op.mark, part .expr right]

open OutlinePlan in
/-- The plan of a place. -/
def Place.plan : Place → OutlinePlan
  | .var name => part .ident name
  | .element base index =>
    node .arrayExpr (part .place base) [mark .lbracket, part .expr index, mark .rbracket]
  | .field base name => node .accessLoc (part .place base) [mark .dot, part .ident name]

open OutlinePlan in
/-- The plan of a statement. -/
def Stmt.plan : Stmt → OutlinePlan
  | .assign a => part .assignStmt a
  | .call c => node .callStmt (part .callExpr c) [mark .semicolon]
  | .ifThen c body => conditional .ifStmt .if_ c [part .block body]
  | .ifElse c body other =>
    conditional .ifElseStmt .if_ c [part .block body, keyword .else_, part .block other]
  | .forLoop start? c step? body =>
    node .forStmt (keyword .for_)
      (mark .lparen ::
        (match start? with
          | none => mark .semicolon
          | some a => part .assignStmt a) ::
        part .expr c :: mark .semicolon :: step?.toList.map (assignment · []) ++
        [mark .rparen, part .block body])
  | .whileLoop c body => conditional .whileStmt .while_ c [part .block body]
  | .return_ e? =>
    node .returnStmt (keyword .return_) (e?.toList.map (part .expr) ++ [mark .semicolon])

namespace NodeKind

section Plan

open OutlinePlan

/-- The plan of a node, which is never empty. -/
def plan : (k : NodeKind) → k.Tree → OutlinePlan × List OutlinePlan
  | program, p => (node .program (part declList p.decls) [], [])
  | declList, ds => (list .declList (List.map (part decl) ds), [])
  | varDeclList, vs => (list .varDeclList (List.map (part varDecl) vs), [])
  | formalsList, fs => (list .formalsList (separated formalDecl fs), [])
  | stmtList, ss => (list .stmtList (List.map (part stmt) ss), [])
  | actualsList, es => (list .actualsList (separated expr es), [])
  | decl, .var v => (part varDecl v, [])
  | decl, .prototype t name fs => (part funcDecl (t, name, fs), [])
  | decl, .function t name fs body => (part funcDef (t, name, fs, body), [])
  | decl, .struct name fields => (part structDecl (name, fields), [])
  | varDecl, ⟨t, name, size?⟩ =>
    (node .varDecl (part type t) (part ident name ::
      (size?.toList.flatMap fun size => [mark .lbracket, part intLiteral size, mark .rbracket]) ++
        [mark .semicolon]), [])
  | funcDecl, (t, name, fs) =>
    (node .funcDecl (part type t) (signature name fs ++ [mark .semicolon]), [])
  | funcDef, (t, name, fs, body) =>
    (node .funcDef (part type t) (signature name fs ++ [node .funcBody (part block body) []]), [])
  | structDecl, (name, fields) =>
    (node .structDecl (keyword .struct) [part ident name, mark .lcurly, part varDeclList fields,
      mark .rcurly, mark .semicolon], [])
  | formalDecl, ⟨t, name⟩ => (node .formalDecl (part type t) [part ident name], [])
  | type, t => (.type t, [])
  | block, ⟨decls, stmts⟩ =>
    (mark .lcurly, [part varDeclList decls, part stmtList stmts, mark .rcurly])
  | stmt, s => (Stmt.plan s, [])
  | assignStmt, a => (assignment a [mark .semicolon], [])
  | expr, e => (Expr.plan e, [])
  | callExpr, ⟨name, arguments⟩ =>
    (node .callExpr (part ident name) [mark .lparen, part actualsList arguments, mark .rparen], [])
  | place, p => (Place.plan p, [])
  | ident, name => (token (.ident name), [])
  | intLiteral, l => (token (.intLit l.text), [])
  | realLiteral, l => (token (.realLit l.text), [])

/-- What there is to do for the outline of a node, in order. -/
def tasks (k : NodeKind) (t : k.Tree) : List OutlineTask :=
  tasksAll 0 ((k.plan t).1 :: (k.plan t).2)

end Plan

end NodeKind

/-! ## The tasks make up the outline -/

namespace OutlineTask

/-- The items of a task for a node at depth `d`. -/
def items (d : Nat) : OutlineTask → List Item
  | line deeper entry => [⟨d + deeper, entry⟩]
  | part deeper kind tree => kind.outline (d + deeper) tree

end OutlineTask

namespace OutlinePlan

/-- The items of plans that stand side by side, so many levels deeper than a node at depth `d`. -/
def items (d deeper : Nat) (ps : List OutlinePlan) : List Item :=
  (tasksAll deeper ps).flatMap (OutlineTask.items d)

variable (d deeper : Nat)

@[simp] theorem items_nil : items d deeper [] = [] := rfl

/-- Side by side is one after the other. -/
theorem items_cons (p : OutlinePlan) (ps : List OutlinePlan) :
    items d deeper (p :: ps) = (p.tasks deeper).flatMap (OutlineTask.items d) ++ items d deeper ps := by
  rw [items, tasksAll, List.flatMap_append, items]

/-- Plans one after the other stand for their lines one after the other. -/
@[simp] theorem items_append (ps qs : List OutlinePlan) :
    items d deeper (ps ++ qs) = items d deeper ps ++ items d deeper qs := by
  induction ps with
  | nil => rfl
  | cons p ps ih => rw [List.cons_append, items_cons, items_cons, ih, List.append_assoc]

variable (ps : List OutlinePlan)

@[simp] theorem items_token (t : Token) :
    items d deeper (token t :: ps) = ⟨d + deeper, .token t⟩ :: items d deeper ps := rfl

@[simp] theorem items_keyword (k : Keyword) :
    items d deeper (keyword k :: ps) = .keyword (d + deeper) k :: items d deeper ps := rfl

@[simp] theorem items_mark (m : Mark) :
    items d deeper (mark m :: ps) = .mark (d + deeper) m :: items d deeper ps := rfl

@[simp] theorem items_type (t : TypeName) :
    items d deeper (type t :: ps) = .type (d + deeper) t :: items d deeper ps := rfl

/-- A part stands for its own outline. -/
@[simp] theorem items_part (kind : NodeKind) (tree : kind.Tree) :
    items d deeper (part kind tree :: ps) = kind.outline (d + deeper) tree ++ items d deeper ps := by
  rw [items_cons]
  simp [tasks, OutlineTask.items]

/-- What stands under a header is one level deeper. -/
@[simp] theorem items_node (h : Header) (first : OutlinePlan) (others : List OutlinePlan) :
    items d deeper (node h first others :: ps) =
      .header (d + deeper) h :: items d (deeper + 1) (first :: others) ++ items d deeper ps := by
  rw [items_cons, tasks, items_cons, List.cons_append, List.flatMap_cons, List.flatMap_append]
  rfl

/-- A list stands for its header and its elements, one step further in. -/
@[simp] theorem items_list (h : Header) (elements : List OutlinePlan) :
    items d deeper (list h elements :: ps) =
      .header (d + deeper) h :: items d (deeper + 1) elements ++ items d deeper ps := by
  rw [items_cons, items, tasks]
  rfl

/-- The items of parts of one kind. -/
theorem items_map_part (kind : NodeKind) (ts : List kind.Tree) :
    items d deeper (ts.map (part kind)) = ts.flatMap (kind.outline (d + deeper)) := by
  induction ts with
  | nil => rfl
  | cons t ts ih => rw [List.map_cons, items_part, ih, List.flatMap_cons]

/-- The items of parts of one kind with commas between them. -/
theorem items_separated (kind : NodeKind) (t : kind.Tree) (ts : List kind.Tree) :
    items d deeper (separated kind (t :: ts)) = kind.outline (d + deeper) t ++
      ts.flatMap fun u => .mark (d + deeper) .comma :: kind.outline (d + deeper) u := by
  rw [separated, items_part]
  congr 1
  induction ts with
  | nil => rfl
  | cons u us ih => rw [List.flatMap_cons, items_append, ih, List.flatMap_cons]; simp

/-- The plan of a signature stands for its lines. -/
@[simp] theorem items_signature (t : TypeName) (name : String) (fs : List Formal) :
    items d deeper (part .type t :: signature name fs) =
      Outline.signature (d + deeper) t name fs := by
  simp [signature, Outline.signature, NodeKind.outline]

end OutlinePlan

/-- The outlines of expressions with a comma before each, one after the other. -/
theorem Expr.outlineMore_eq_flatMap (d : Nat) (es : List Expr) :
    Expr.outlineMore d es = es.flatMap fun e => .mark d .comma :: e.outline d := by
  induction es with
  | nil => rfl
  | cons e es ih => rw [Expr.outlineMore, ih, List.flatMap_cons]

/-- The outlines of statements, one after the other. -/
theorem Stmt.outlineAll_eq_flatMap (d : Nat) (ss : List Stmt) :
    Stmt.outlineAll d ss = ss.flatMap (Stmt.outline d) := by
  induction ss with
  | nil => rfl
  | cons s ss ih => rw [Stmt.outlineAll, ih, List.flatMap_cons]

section Outline

open OutlinePlan

/-- The outline of an expression is what its plan says. -/
theorem Expr.outline_eq_plan (d : Nat) (e : Expr) : e.outline d = items d 0 [e.plan] := by
  cases e <;> simp [Expr.plan, Expr.outline, NodeKind.outline, Call.outline]

/-- The outline of a place is what its plan says. -/
theorem Place.outline_eq_plan (d : Nat) (p : Place) : p.outline d = items d 0 [p.plan] := by
  cases p <;> simp [Place.plan, Place.outline, NodeKind.outline]

/-- The outline of a statement is what its plan says. -/
theorem Stmt.outline_eq_plan (d : Nat) (s : Stmt) : s.outline d = items d 0 [s.plan] := by
  cases s with
  | forLoop start? c step? body =>
    cases start? <;> cases step? <;>
      simp [Stmt.plan, Stmt.outline, Outline.forStart, Outline.forStep, NodeKind.outline, assignment,
        Assignment.outlineClause]
  | return_ e? =>
    cases e? <;> simp [Stmt.plan, Stmt.outline, Outline.value?, NodeKind.outline]
  | _ => simp [Stmt.plan, Stmt.outline, NodeKind.outline, conditional, Outline.condition]

namespace NodeKind

/-- The outline of a node is what its plan says. -/
theorem outline_eq_plan (d : Nat) : ∀ (k : NodeKind) (t : k.Tree),
    k.outline d t = items d 0 ((k.plan t).1 :: (k.plan t).2)
  -- One case for each kind of node; lists go by their elements.
  | program, p => by simp [plan, outline, Program.outline]
  | declList, ds => by
    rw [plan, items_list, items_map_part, items_nil, List.append_nil]
    rfl
  | varDeclList, vs => by
    rw [plan, items_list, items_map_part, items_nil, List.append_nil]
    rfl
  | formalsList, [] => rfl
  | formalsList, f :: fs => by
    simp [plan, outline, Outline.formals, Outline.formalsMore, items_separated d 1 formalDecl]
  | stmtList, ss => by
    rw [plan, items_list, items_map_part, items_nil, List.append_nil, outline, Outline.stmts,
      Stmt.outlineAll_eq_flatMap]
    rfl
  | actualsList, [] => rfl
  | actualsList, e :: es => by
    simp [plan, outline, Outline.actuals, Expr.outlineList, Expr.outlineMore_eq_flatMap,
      items_separated d 1 expr]
  | decl, .var v => by simp [plan, outline, Decl.outline]
  | decl, .prototype t name fs => by simp [plan, outline]
  | decl, .function t name fs body => by simp [plan, outline]
  | decl, .struct name fields => by simp [plan, outline]
  | varDecl, ⟨t, name, none⟩ => rfl
  | varDecl, ⟨t, name, some size⟩ => rfl
  | funcDecl, (t, name, fs) => by
    simp [plan, outline, Decl.outline, ← items_signature]
  | funcDef, (t, name, fs, body) => by
    simp [plan, outline, Decl.outline, ← items_signature]
  | structDecl, (name, fields) => by simp [plan, outline, Decl.outline]
  | formalDecl, ⟨t, name⟩ => rfl
  | type, t => rfl
  | block, ⟨decls, stmts⟩ => by simp [plan, outline, Block.outline, Outline.stmts]
  | stmt, s => Stmt.outline_eq_plan d s
  | assignStmt, a => by
    simp [plan, outline, assignment, Assignment.outline, Assignment.outlineClause]
  | expr, e => Expr.outline_eq_plan d e
  | callExpr, ⟨name, arguments⟩ => by
    simp [plan, outline, Call.outline, Expr.outline, Outline.actuals]
  | place, p => Place.outline_eq_plan d p
  | ident, name => rfl
  | intLiteral, l => rfl
  | realLiteral, l => rfl

/-- The outline of a node is what its tasks write, one after the other. -/
theorem outline_eq_tasks (d : Nat) (k : NodeKind) (t : k.Tree) :
    k.outline d t = (k.tasks t).flatMap (OutlineTask.items d) :=
  outline_eq_plan d k t

/-! ## Parts are smaller -/

/-- The size of a node. A call and a declaration are as large as the expression and the declaration
that they are. -/
noncomputable def size : (k : NodeKind) → k.Tree → Nat
  | funcDecl, (t, name, fs) => sizeOf (Decl.prototype t name fs)
  | funcDef, (t, name, fs, body) => sizeOf (Decl.function t name fs body)
  | structDecl, (name, fields) => sizeOf (Decl.struct name fields)
  | callExpr, c => sizeOf (Expr.call c.name c.arguments)
  | program, p => sizeOf p
  | declList, ds => sizeOf ds
  | varDeclList, vs => sizeOf vs
  | formalsList, fs => sizeOf fs
  | stmtList, ss => sizeOf ss
  | actualsList, es => sizeOf es
  | decl, c => sizeOf c
  | varDecl, v => sizeOf v
  | formalDecl, f => sizeOf f
  | type, t => sizeOf t
  | block, b => sizeOf b
  | stmt, s => sizeOf s
  | assignStmt, a => sizeOf a
  | expr, e => sizeOf e
  | place, p => sizeOf p
  | ident, name => sizeOf name
  | intLiteral, l => sizeOf l
  | realLiteral, l => sizeOf l

/-- How many nodes may be opened one inside the other without getting deeper, the node itself left
out: an expression can be a place and the place a name. -/
def rank : NodeKind → Nat
  | expr => 2
  | place | decl | stmt | block => 1
  | _ => 0

/-- What a part is less in than the node that it is a part of. -/
noncomputable def weight (k : NodeKind) (t : k.Tree) : Nat := 3 * k.size t + k.rank

end NodeKind

namespace OutlineTask

/-- Whether a task for a node leads to no part, or to a part that is less than the node and either
deeper or of a lower rank. -/
def Descends (k : NodeKind) (t : k.Tree) : OutlineTask → Prop
  | line _ _ => True
  | part deeper k' t' => k'.weight t' < k.weight t ∧ k'.rank < k.rank + 3 * deeper

end OutlineTask

namespace OutlinePlan

/-- Whether all tasks of plans that stand side by side descend. -/
def Descend (k : NodeKind) (t : k.Tree) (deeper : Nat) (ps : List OutlinePlan) : Prop :=
  ∀ task ∈ tasksAll deeper ps, task.Descends k t

section Descend

variable {k : NodeKind} {t : k.Tree} {deeper : Nat} {ps : List OutlinePlan}

@[simp] theorem descend_nil : Descend k t deeper [] := List.forall_mem_nil _

@[simp] theorem descend_token {token : Token} :
    Descend k t deeper (.token token :: ps) ↔ Descend k t deeper ps := by
  simp [Descend, tasksAll, tasks, OutlineTask.Descends]

@[simp] theorem descend_keyword {word : Keyword} :
    Descend k t deeper (keyword word :: ps) ↔ Descend k t deeper ps := descend_token

@[simp] theorem descend_mark {m : Mark} :
    Descend k t deeper (mark m :: ps) ↔ Descend k t deeper ps := descend_token

@[simp] theorem descend_type {type : TypeName} :
    Descend k t deeper (.type type :: ps) ↔ Descend k t deeper ps := by
  simp [Descend, tasksAll, tasks, OutlineTask.Descends]

/-- A part descends if it is smaller than the node it is a part of. -/
@[simp] theorem descend_part {k' : NodeKind} {t' : k'.Tree} :
    Descend k t deeper (part k' t' :: ps) ↔
      (k'.weight t' < k.weight t ∧ k'.rank < k.rank + 3 * deeper) ∧ Descend k t deeper ps := by
  simp [Descend, tasksAll, tasks, OutlineTask.Descends]

/-- A node descends if all under its line does. -/
@[simp] theorem descend_node {h : Header} {first : OutlinePlan} {others : List OutlinePlan} :
    Descend k t deeper (node h first others :: ps) ↔
      Descend k t (deeper + 1) (first :: others) ∧ Descend k t deeper ps := by
  simp only [Descend, tasksAll, tasks, List.cons_append, List.forall_mem_cons,
    List.forall_mem_append, and_assoc]
  exact and_iff_right trivial

/-- A list descends if its elements do. -/
@[simp] theorem descend_list {h : Header} {elements : List OutlinePlan} :
    Descend k t deeper (list h elements :: ps) ↔
      Descend k t (deeper + 1) elements ∧ Descend k t deeper ps := by
  simp only [Descend, tasksAll, tasks, List.cons_append, List.forall_mem_cons,
    List.forall_mem_append]
  exact and_iff_right trivial

/-- Parts of one kind descend if each of them does. -/
theorem descend_map_part {k' : NodeKind} {ts : List k'.Tree}
    (h : ∀ u ∈ ts, k'.weight u < k.weight t ∧ k'.rank < k.rank + 3 * deeper) :
    Descend k t deeper (ts.map (part k')) := by
  induction ts with
  | nil => exact descend_nil
  | cons u us ih =>
    rw [List.forall_mem_cons] at h
    exact descend_part.mpr ⟨h.1, ih h.2⟩

/-- So do they with commas between them. -/
theorem descend_separated {k' : NodeKind} {ts : List k'.Tree}
    (h : ∀ u ∈ ts, k'.weight u < k.weight t ∧ k'.rank < k.rank + 3 * deeper) :
    Descend k t deeper (separated k' ts) := by
  cases ts with
  | nil => exact descend_nil
  | cons u us =>
    rw [List.forall_mem_cons] at h
    refine descend_part.mpr ⟨h.1, ?_⟩
    replace h := h.2
    induction us with
    | nil => exact descend_nil
    | cons u us ih =>
      rw [List.forall_mem_cons] at h
      exact descend_mark.mpr (descend_part.mpr ⟨h.1, ih h.2⟩)

end Descend

end OutlinePlan

namespace NodeKind

/-- The parts of an expression are smaller, or a call or a place that is the expression. -/
theorem descend_expr (e : Expr) : Descend expr e 0 [e.plan] := by
  cases e <;> simp [Expr.plan, weight, size, rank] <;> omega

/-- The parts of a place are smaller. -/
theorem descend_place (p : Place) : Descend place p 0 [p.plan] := by
  cases p <;> simp [Place.plan, weight, size, rank] <;> omega

/-- The parts of a statement are smaller. -/
theorem descend_stmt (s : Stmt) : Descend stmt s 0 [s.plan] := by
  cases s with
  | call c =>
    obtain ⟨name, arguments⟩ := c
    simp [Stmt.plan, weight, size, rank]
  | forLoop start? c step? body =>
    rcases start? with _ | start <;> rcases step? with _ | ⟨place, value⟩ <;>
      simp [Stmt.plan, assignment, weight, size, rank] <;> omega
  | return_ e? =>
    cases e? <;> simp [Stmt.plan, weight, size, rank]
    omega
  | _ => simp [Stmt.plan, conditional, weight, size, rank] <;> omega

/-- What is smaller descends one step further in, whatever the ranks. -/
theorem descends_of_size_lt {k k' : NodeKind} {t : k.Tree} {t' : k'.Tree}
    (hsize : k'.size t' < k.size t) :
    k'.weight t' < k.weight t ∧ k'.rank < k.rank + 3 * 1 := by
  have hrank : k'.rank ≤ 2 := by cases k' <;> decide
  rw [weight, weight]
  omega

/-- Whatever the node, its tasks descend. -/
theorem descend_plan (k : NodeKind) (t : k.Tree) :
    Descend k t 0 ((k.plan t).1 :: (k.plan t).2) := by
  -- The elements of a list are smaller than the list, and so are the parts of all other nodes.
  cases k with
  | declList =>
    exact descend_list.mpr ⟨descend_map_part fun u hu =>
      descends_of_size_lt (List.sizeOf_lt_of_mem hu), descend_nil⟩
  | varDeclList =>
    exact descend_list.mpr ⟨descend_map_part fun u hu =>
      descends_of_size_lt (List.sizeOf_lt_of_mem hu), descend_nil⟩
  | stmtList =>
    exact descend_list.mpr ⟨descend_map_part fun u hu =>
      descends_of_size_lt (List.sizeOf_lt_of_mem hu), descend_nil⟩
  | formalsList =>
    exact descend_list.mpr ⟨descend_separated fun u hu =>
      descends_of_size_lt (List.sizeOf_lt_of_mem hu), descend_nil⟩
  | actualsList =>
    exact descend_list.mpr ⟨descend_separated fun u hu =>
      descends_of_size_lt (List.sizeOf_lt_of_mem hu), descend_nil⟩
  | program =>
    obtain ⟨decls⟩ := t
    simp [plan, weight, size, rank]
  | decl => cases t <;> simp [plan, weight, size, rank]
  | varDecl =>
    obtain ⟨type, name, size?⟩ := t
    cases size? <;> simp [plan, weight, size, rank] <;> omega
  | block =>
    obtain ⟨decls, stmts⟩ := t
    simp [plan, weight, size, rank]
    omega
  | assignStmt =>
    obtain ⟨place, value⟩ := t
    simp [plan, assignment, weight, size, rank]
    omega
  | formalDecl =>
    obtain ⟨type, name⟩ := t
    simp [plan, weight, size, rank]
    omega
  | stmt => exact descend_stmt t
  | expr => exact descend_expr t
  | place => exact descend_place t
  | _ => simp [plan, signature, weight, size, rank] <;> omega

end NodeKind

end Outline

end SyntaxOutline
