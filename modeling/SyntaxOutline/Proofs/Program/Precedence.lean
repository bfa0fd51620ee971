import SyntaxOutline.Program

/-!
# Precedence

A tree keeps to the precedence of its operators when reading its tokens back without parentheses
gives the same tree: the left operand of an operator is not joined by a looser operator, the right
operand not by one that is as loose, and the operand of an operator in front of it not by any.

`looseness` measures how loosely the outermost operator of an expression binds, so that each of
these conditions is a bound.
-/

namespace SyntaxOutline

/-- How loosely an expression is joined: 0 without an operator between operands, else the rank of
the operator's level counted from 1. -/
def Expr.looseness : Expr → Nat
  | .binary op _ _ => op.level.rank + 1
  | _ => 0

mutual
/-- Whether all operators of an expression keep to their precedence. -/
def Expr.isCanonical : Expr → Bool
  | .bounded inner => inner.isCanonical
  | .call _ arguments => Expr.areCanonical arguments
  | .place p => p.isCanonical
  | .unary _ operand => operand.looseness == 0 && operand.isCanonical
  | .binary op left right =>
    decide (left.looseness ≤ op.level.rank + 1) && decide (right.looseness ≤ op.level.rank) &&
      left.isCanonical && right.isCanonical
  | _ => true

/-- Whether all operators of some expressions keep to their precedence. -/
def Expr.areCanonical : List Expr → Bool
  | [] => true
  | e :: es => e.isCanonical && Expr.areCanonical es

/-- Whether all operators in the indices of a place keep to their precedence. -/
def Place.isCanonical : Place → Bool
  | .var _ => true
  | .element base index => base.isCanonical && index.isCanonical
  | .field base _ => base.isCanonical
end

/-- Whether all operators of an assignment keep to their precedence. -/
def Assignment.isCanonical (a : Assignment) : Bool := a.place.isCanonical && a.value.isCanonical

mutual
/-- Whether all operators of a statement keep to their precedence. -/
def Stmt.isCanonical : Stmt → Bool
  | .assign a => a.isCanonical
  | .call c => Expr.areCanonical c.arguments
  | .ifThen c body => c.isCanonical && body.isCanonical
  | .ifElse c body other => c.isCanonical && body.isCanonical && other.isCanonical
  | .forLoop start? c step? body =>
    start?.all Assignment.isCanonical && c.isCanonical && step?.all Assignment.isCanonical &&
      body.isCanonical
  | .whileLoop c body => c.isCanonical && body.isCanonical
  | .return_ e? => e?.all Expr.isCanonical

/-- Whether all operators of some statements keep to their precedence. -/
def Stmt.areCanonical : List Stmt → Bool
  | [] => true
  | s :: ss => s.isCanonical && Stmt.areCanonical ss

/-- Whether all operators of a block keep to their precedence. -/
def Block.isCanonical : Block → Bool
  | ⟨_, stmts⟩ => Stmt.areCanonical stmts
end

/-- Whether all operators of a declaration keep to their precedence. -/
def Decl.isCanonical : Decl → Bool
  | .function _ _ _ body => body.isCanonical
  | _ => true

/-- Whether all operators of a program keep to their precedence. -/
def Program.isCanonical (p : Program) : Bool := p.decls.all Decl.isCanonical

/-- Levels are told apart by their rank. -/
theorem Level.rank_inj {l l' : Level} (h : l.rank = l'.rank) : l = l' := by
  cases l <;> cases l' <;> simp [Level.rank] at h ⊢

/-- Each level but the tightest has the next one below it. -/
theorem Level.exists_tighter {l : Level} (h : 0 < l.rank) :
    ∃ t, l.tighter? = some t ∧ t.rank + 1 = l.rank := by
  cases l <;> simp [Level.rank, Level.tighter?] at h ⊢

/-- Each rank up to the largest is that of a level. -/
theorem Level.exists_rank {rank : Nat} (h : rank ≤ Level.bitOr.rank) :
    ∃ l : Level, l.rank = rank := by
  match rank, h with
  | 0, _ => exact ⟨.multiplicative, rfl⟩
  | 1, _ => exact ⟨.additive, rfl⟩
  | 2, _ => exact ⟨.relational, rfl⟩
  | 3, _ => exact ⟨.equality, rfl⟩
  | 4, _ => exact ⟨.bitAnd, rfl⟩
  | 5, _ => exact ⟨.bitOr, rfl⟩

/-- No level is looser than that of the loosest operator. -/
theorem Level.rank_le (l : Level) : l.rank ≤ Level.bitOr.rank := by
  cases l <;> decide

/-- No expression is looser than a chain of the loosest operator. -/
theorem Expr.looseness_le (e : Expr) : e.looseness ≤ Level.bitOr.rank + 1 := by
  cases e with
  | binary op => exact Nat.succ_le_succ (Level.rank_le op.level)
  | _ => exact Nat.zero_le _

/-- The test of arguments is that of each. -/
theorem Expr.areCanonical_iff (es : List Expr) :
    Expr.areCanonical es = true ↔ ∀ e ∈ es, e.isCanonical = true := by
  induction es with
  | nil => simp [Expr.areCanonical]
  | cons e es ih => simp [Expr.areCanonical, ih]

/-- The test of statements is that of each. -/
theorem Stmt.areCanonical_iff (ss : List Stmt) :
    Stmt.areCanonical ss = true ↔ ∀ s ∈ ss, s.isCanonical = true := by
  induction ss with
  | nil => simp [Stmt.areCanonical]
  | cons s ss ih => simp [Stmt.areCanonical, ih]

end SyntaxOutline
