import SyntaxOutline.Proofs.Program.Precedence

/-!
# The expressions of a program

`subexprs` of a node lists the expressions that stand anywhere in it, so that what precedence asks
of a program can be said of each operator by itself and of its operands. Main statement: that is
what the test goes through (`Program.isCanonical_iff_subexprs`).
-/

namespace SyntaxOutline

/-- Whether operators of the level bind more loosely than those of another. -/
def Level.LooserThan (l other : Level) : Prop := other.rank < l.rank

/-- What precedence asks of the outermost operator of an expression. To the left of an operator
nothing is joined by a looser one, to the right nothing by one of the same level or a looser one,
and nothing is joined at all behind an operator that stands in front of its operand. -/
def Expr.KeepsPrecedence : Expr → Prop
  | .binary op left right =>
    (∀ inner a b, left = .binary inner a b → ¬ inner.level.LooserThan op.level) ∧
      ∀ inner a b, right = .binary inner a b →
        ¬ (inner.level = op.level ∨ inner.level.LooserThan op.level)
  | .unary _ operand => ∀ inner a b, operand ≠ .binary inner a b
  | _ => True

mutual
/-- An expression, and the expressions in it. -/
def Expr.subexprs : Expr → List Expr
  | .bounded inner => .bounded inner :: inner.subexprs
  | .call name arguments => .call name arguments :: Expr.subexprsAll arguments
  | .place p => .place p :: p.subexprs
  | .unary op operand => .unary op operand :: operand.subexprs
  | .binary op left right => .binary op left right :: (left.subexprs ++ right.subexprs)
  | e => [e]

/-- Some expressions, and the expressions in them. -/
def Expr.subexprsAll : List Expr → List Expr
  | [] => []
  | e :: es => e.subexprs ++ Expr.subexprsAll es

/-- The expressions in the indices of a place. -/
def Place.subexprs : Place → List Expr
  | .var _ => []
  | .element base index => base.subexprs ++ index.subexprs
  | .field base _ => base.subexprs
end

/-- The expressions of an assignment. -/
def Assignment.subexprs (a : Assignment) : List Expr := a.place.subexprs ++ a.value.subexprs

mutual
/-- The expressions of a statement. -/
def Stmt.subexprs : Stmt → List Expr
  | .assign a => a.subexprs
  | .call c => Expr.subexprsAll c.arguments
  | .ifThen c body => c.subexprs ++ body.subexprs
  | .ifElse c body other => c.subexprs ++ (body.subexprs ++ other.subexprs)
  | .forLoop start? c step? body =>
    start?.toList.flatMap Assignment.subexprs ++ (c.subexprs ++
      (step?.toList.flatMap Assignment.subexprs ++ body.subexprs))
  | .whileLoop c body => c.subexprs ++ body.subexprs
  | .return_ e? => e?.toList.flatMap Expr.subexprs

/-- The expressions of some statements. -/
def Stmt.subexprsAll : List Stmt → List Expr
  | [] => []
  | s :: ss => s.subexprs ++ Stmt.subexprsAll ss

/-- The expressions of a block. -/
def Block.subexprs : Block → List Expr
  | ⟨_, stmts⟩ => Stmt.subexprsAll stmts
end

/-- The expressions of a declaration. -/
def Decl.subexprs : Decl → List Expr
  | .function _ _ _ body => body.subexprs
  | _ => []

/-- The expressions of a program. -/
def Program.subexprs (p : Program) : List Expr := p.decls.flatMap Decl.subexprs

/-- Whether all operators of a program keep to their precedence. -/
def Program.KeepsPrecedence (p : Program) : Prop := ∀ e ∈ p.subexprs, e.KeepsPrecedence

/-! ## The bounds on looseness -/

/-- Only an operator makes an expression loose. -/
theorem Expr.looseness_le_iff {e : Expr} {n : Nat} :
    e.looseness ≤ n ↔ ∀ op a b, e = .binary op a b → op.level.rank + 1 ≤ n := by
  constructor
  · rintro h op a b rfl
    exact h
  · intro h
    cases e with
    | binary op a b => exact h op a b rfl
    | _ => exact Nat.zero_le n

/-- An operator keeps to precedence if what is left of it is no looser than its own level, and what
is right of it is tighter. -/
theorem Expr.keepsPrecedence_binary {op : BinaryOp} {left right : Expr} :
    (Expr.binary op left right).KeepsPrecedence ↔
      left.looseness ≤ op.level.rank + 1 ∧ right.looseness ≤ op.level.rank := by
  rw [Expr.looseness_le_iff, Expr.looseness_le_iff]
  -- Said of operators on the one side and of numbers on the other.
  refine and_congr ?_ ?_
  · refine forall₃_congr fun inner a b => imp_congr_right fun _ => ?_
    show ¬ op.level.rank < inner.level.rank ↔ inner.level.rank + 1 ≤ op.level.rank + 1
    omega
  · refine forall₃_congr fun inner a b => imp_congr_right fun _ => ?_
    show ¬ (inner.level = op.level ∨ op.level.rank < inner.level.rank) ↔
      inner.level.rank + 1 ≤ op.level.rank
    constructor
    · intro h
      have hne : inner.level.rank ≠ op.level.rank := fun heq => h (.inl (Level.rank_inj heq))
      have hle : ¬ op.level.rank < inner.level.rank := fun hlt => h (.inr hlt)
      omega
    · rintro h (heq | hlt)
      · rw [heq] at h
        omega
      · omega

/-- An operator in front keeps to precedence if its operand is no chain. -/
theorem Expr.keepsPrecedence_unary {op : UnaryOp} {operand : Expr} :
    (Expr.unary op operand).KeepsPrecedence ↔ operand.looseness = 0 := by
  rw [← Nat.le_zero, Expr.looseness_le_iff]
  exact forall₃_congr fun inner a b => imp_congr_right fun _ => ⟨False.elim, nofun⟩

/-! ## The test goes through all expressions -/

mutual
/-- The test of an expression is that every expression in it keeps to precedence. -/
theorem Expr.isCanonical_iff_subexprs : ∀ e : Expr,
    e.isCanonical = true ↔ ∀ x ∈ e.subexprs, x.KeepsPrecedence
  | .int _ | .real _ | .string _ | .char _ | .true_ | .false_ | .null | .sizeof _ => by
    simp [Expr.isCanonical, Expr.subexprs, Expr.KeepsPrecedence]
  | .bounded inner => by
    rw [Expr.isCanonical, Expr.subexprs, List.forall_mem_cons, Expr.isCanonical_iff_subexprs inner]
    exact (iff_of_eq (true_and _)).symm
  | .call name arguments => by
    rw [Expr.isCanonical, Expr.subexprs, List.forall_mem_cons, Expr.areCanonical_iff_subexprs arguments]
    exact (iff_of_eq (true_and _)).symm
  | .place p => by
    rw [Expr.isCanonical, Expr.subexprs, List.forall_mem_cons, Place.isCanonical_iff_subexprs p]
    exact (iff_of_eq (true_and _)).symm
  | .unary op operand => by
    rw [Expr.isCanonical, Expr.subexprs, List.forall_mem_cons, Expr.keepsPrecedence_unary,
      Bool.and_eq_true, beq_iff_eq, Expr.isCanonical_iff_subexprs operand]
  | .binary op left right => by
    rw [Expr.isCanonical, Expr.subexprs, List.forall_mem_cons, List.forall_mem_append,
      Expr.keepsPrecedence_binary, Bool.and_eq_true, Bool.and_eq_true, Bool.and_eq_true,
      decide_eq_true_iff, decide_eq_true_iff, Expr.isCanonical_iff_subexprs left,
      Expr.isCanonical_iff_subexprs right, and_assoc]

theorem Expr.areCanonical_iff_subexprs : ∀ es : List Expr,
    Expr.areCanonical es = true ↔ ∀ x ∈ Expr.subexprsAll es, x.KeepsPrecedence
  | [] => by simp [Expr.areCanonical, Expr.subexprsAll]
  | e :: es => by
    rw [Expr.areCanonical, Expr.subexprsAll, List.forall_mem_append, Bool.and_eq_true,
      Expr.isCanonical_iff_subexprs e, Expr.areCanonical_iff_subexprs es]

theorem Place.isCanonical_iff_subexprs : ∀ p : Place,
    p.isCanonical = true ↔ ∀ x ∈ p.subexprs, x.KeepsPrecedence
  | .var _ => by simp [Place.isCanonical, Place.subexprs]
  | .element base index => by
    rw [Place.isCanonical, Place.subexprs, List.forall_mem_append, Bool.and_eq_true,
      Place.isCanonical_iff_subexprs base, Expr.isCanonical_iff_subexprs index]
  | .field base _ => by rw [Place.isCanonical, Place.subexprs, Place.isCanonical_iff_subexprs base]
end

theorem Assignment.isCanonical_iff_subexprs (a : Assignment) :
    a.isCanonical = true ↔ ∀ x ∈ a.subexprs, x.KeepsPrecedence := by
  rw [Assignment.isCanonical, Assignment.subexprs, List.forall_mem_append, Bool.and_eq_true,
    Place.isCanonical_iff_subexprs, Expr.isCanonical_iff_subexprs]

/-- A test that goes through all expressions of a part does so for a list of parts. -/
theorem all_iff_subexprs {α : Type} {test : α → Bool} {subexprs : α → List Expr}
    (h : ∀ a, test a = true ↔ ∀ x ∈ subexprs a, x.KeepsPrecedence) (as : List α) :
    as.all test = true ↔ ∀ x ∈ as.flatMap subexprs, x.KeepsPrecedence := by
  rw [List.all_eq_true, List.forall_mem_flatMap]
  exact forall₂_congr fun a _ => h a

/-- A part that may be missing is a list with at most one element. -/
theorem option_all_iff_subexprs {α : Type} {test : α → Bool} {subexprs : α → List Expr}
    (h : ∀ a, test a = true ↔ ∀ x ∈ subexprs a, x.KeepsPrecedence) (a? : Option α) :
    a?.all test = true ↔ ∀ x ∈ a?.toList.flatMap subexprs, x.KeepsPrecedence := by
  rw [← all_iff_subexprs h]
  cases a? <;> simp

mutual
theorem Stmt.isCanonical_iff_subexprs : ∀ s : Stmt,
    s.isCanonical = true ↔ ∀ x ∈ s.subexprs, x.KeepsPrecedence
  | .assign a => by rw [Stmt.isCanonical, Stmt.subexprs, Assignment.isCanonical_iff_subexprs]
  | .call c => by rw [Stmt.isCanonical, Stmt.subexprs, Expr.areCanonical_iff_subexprs]
  | .ifThen c body => by
    rw [Stmt.isCanonical, Stmt.subexprs, List.forall_mem_append, Bool.and_eq_true,
      Expr.isCanonical_iff_subexprs, Block.isCanonical_iff_subexprs body]
  | .ifElse c body other => by
    rw [Stmt.isCanonical, Stmt.subexprs, List.forall_mem_append, List.forall_mem_append,
      Bool.and_eq_true, Bool.and_eq_true, Expr.isCanonical_iff_subexprs,
      Block.isCanonical_iff_subexprs body, Block.isCanonical_iff_subexprs other, and_assoc]
  | .forLoop start? c step? body => by
    rw [Stmt.isCanonical, Stmt.subexprs, List.forall_mem_append, List.forall_mem_append,
      List.forall_mem_append, Bool.and_eq_true, Bool.and_eq_true, Bool.and_eq_true,
      option_all_iff_subexprs Assignment.isCanonical_iff_subexprs,
      option_all_iff_subexprs Assignment.isCanonical_iff_subexprs, Expr.isCanonical_iff_subexprs,
      Block.isCanonical_iff_subexprs body, and_assoc, and_assoc]
  | .whileLoop c body => by
    rw [Stmt.isCanonical, Stmt.subexprs, List.forall_mem_append, Bool.and_eq_true,
      Expr.isCanonical_iff_subexprs, Block.isCanonical_iff_subexprs body]
  | .return_ e? => by
    rw [Stmt.isCanonical, Stmt.subexprs, option_all_iff_subexprs Expr.isCanonical_iff_subexprs]

theorem Stmt.areCanonical_iff_subexprs : ∀ ss : List Stmt,
    Stmt.areCanonical ss = true ↔ ∀ x ∈ Stmt.subexprsAll ss, x.KeepsPrecedence
  | [] => by simp [Stmt.areCanonical, Stmt.subexprsAll]
  | s :: ss => by
    rw [Stmt.areCanonical, Stmt.subexprsAll, List.forall_mem_append, Bool.and_eq_true,
      Stmt.isCanonical_iff_subexprs s, Stmt.areCanonical_iff_subexprs ss]

theorem Block.isCanonical_iff_subexprs : ∀ b : Block,
    b.isCanonical = true ↔ ∀ x ∈ b.subexprs, x.KeepsPrecedence
  | ⟨_, stmts⟩ => by
    rw [Block.isCanonical, Block.subexprs, Stmt.areCanonical_iff_subexprs stmts]
end

theorem Decl.isCanonical_iff_subexprs (d : Decl) :
    d.isCanonical = true ↔ ∀ x ∈ d.subexprs, x.KeepsPrecedence := by
  cases d with
  | function type name formals body => exact Block.isCanonical_iff_subexprs body
  | _ => simp [Decl.isCanonical, Decl.subexprs]

/-- The test of a program asks of each operator what precedence asks of it. -/
theorem Program.isCanonical_iff_subexprs (p : Program) :
    p.isCanonical = true ↔ p.KeepsPrecedence :=
  all_iff_subexprs Decl.isCanonical_iff_subexprs p.decls

end SyntaxOutline
