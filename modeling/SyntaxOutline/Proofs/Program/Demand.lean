import SyntaxOutline.Proofs.Program.Precedence

/-!
# The levels of nesting that a program needs

`demand` of a node is the number of levels that are open at once, at most, while the node is read,
counted from those that are open where it starts. A block and a full expression open one level, an
operator in front of an operand opens one for it, and the `k`-th operator of a chain of one
precedence, or the `k`-th `[ ]` or `.` of a place, has `k` levels open for itself and for what it
brings with it. The first operand of a chain is read before any of its levels is open.
-/

namespace SyntaxOutline

/-- The largest of the values that `f` has on a list. -/
def largest {α : Type} (f : α → Nat) : List α → Nat
  | [] => 0
  | a :: as => max (f a) (largest f as)

/-- The value that `f` has on a part that may be missing. -/
def largest? {α : Type} (f : α → Nat) (a? : Option α) : Nat := (a?.map f).getD 0

/-- The largest is within a bound if all are. -/
theorem largest_le {α : Type} {f : α → Nat} {as : List α} {n : Nat} :
    largest f as ≤ n ↔ ∀ a ∈ as, f a ≤ n := by
  induction as with
  | nil => simp [largest]
  | cons a as ih => rw [largest, Nat.max_le, ih, List.forall_mem_cons]

theorem largest?_le {α : Type} {f : α → Nat} {a? : Option α} {n : Nat} :
    largest? f a? ≤ n ↔ ∀ a, a? = some a → f a ≤ n := by
  cases a? with
  | none => simp [largest?]
  | some a => simp [largest?]

/-- The number of operators of a level in the chain that makes up an expression. -/
def Expr.chainLength (level : Level) : Expr → Nat
  | .binary op left _ => if op.level = level then left.chainLength level + 1 else 0
  | _ => 0

/-- The number of indices and fields of a place. -/
def Place.suffixCount : Place → Nat
  | .var _ => 0
  | .element base _ => base.suffixCount + 1
  | .field base _ => base.suffixCount + 1

mutual
/-- The levels that an operand needs. -/
def Expr.demand : Expr → Nat
  | .bounded inner => inner.demand + 1
  | .call _ arguments => Expr.demandArguments arguments
  | .place p => p.demand
  | .unary _ operand => operand.demand + 1
  | .binary op left right =>
    max left.demand (left.chainLength op.level + 1 + right.demand)
  | _ => 0

/-- The levels that arguments need, each of them a full expression. -/
def Expr.demandArguments : List Expr → Nat
  | [] => 0
  | e :: es => max (e.demand + 1) (Expr.demandArguments es)

/-- The levels that a place needs. -/
def Place.demand : Place → Nat
  | .var _ => 0
  | .element base index => max base.demand (base.suffixCount + 1 + (index.demand + 1))
  | .field base _ => max base.demand (base.suffixCount + 1)
end

/-- The levels that a full expression needs. -/
def Expr.fullDemand (e : Expr) : Nat := e.demand + 1

/-- The levels that an assignment needs. -/
def Assignment.demand (a : Assignment) : Nat := max a.place.demand a.value.fullDemand

mutual
/-- The levels that a statement needs. -/
def Stmt.demand : Stmt → Nat
  | .assign a => a.demand
  | .call c => Expr.demandArguments c.arguments
  | .ifThen c body => max c.fullDemand (body.demand + 1)
  | .ifElse c body other => max c.fullDemand (max (body.demand + 1) (other.demand + 1))
  | .forLoop start? c step? body =>
    max (largest? Assignment.demand start?)
      (max c.fullDemand (max (largest? Assignment.demand step?) (body.demand + 1)))
  | .whileLoop c body => max c.fullDemand (body.demand + 1)
  | .return_ e? => largest? Expr.fullDemand e?

/-- The levels that statements need, one after the other. -/
def Stmt.demandAll : List Stmt → Nat
  | [] => 0
  | s :: ss => max s.demand (Stmt.demandAll ss)

/-- The levels that the contents of a block need. -/
def Block.demand : Block → Nat
  | ⟨_, stmts⟩ => Stmt.demandAll stmts
end

/-- The levels that a declaration needs; the body of a function opens none by itself. -/
def Decl.demand : Decl → Nat
  | .function _ _ _ body => body.demand
  | _ => 0

/-- The levels that a program needs. -/
def Program.demand (p : Program) : Nat := largest Decl.demand p.decls

/-- Arguments need what the one that needs most does. -/
theorem Expr.demandArguments_eq (es : List Expr) :
    Expr.demandArguments es = largest Expr.fullDemand es := by
  induction es with
  | nil => rfl
  | cons e es ih => rw [Expr.demandArguments, ih, largest, Expr.fullDemand]

theorem Stmt.demandAll_eq (ss : List Stmt) : Stmt.demandAll ss = largest Stmt.demand ss := by
  induction ss with
  | nil => rfl
  | cons s ss ih => rw [Stmt.demandAll, ih, largest]

/-- What is not joined as loosely as the operators of a level is no chain of them. -/
theorem Expr.chainLength_eq_zero {level : Level} {e : Expr} (h : e.looseness ≤ level.rank) :
    e.chainLength level = 0 := by
  cases e with
  | binary op left right =>
    rw [Expr.chainLength, if_neg]
    rintro rfl
    exact Nat.not_succ_le_self _ h
  | _ => rfl

/-- Each operator of a chain opens a level. -/
theorem Expr.chainLength_le_demand (level : Level) (e : Expr) :
    e.chainLength level ≤ e.demand := by
  cases e with
  | binary op left right =>
    simp only [Expr.chainLength, Expr.demand]
    split
    · next h =>
      rw [h]
      omega
    · omega
  | _ => exact Nat.zero_le _

/-- Each index and each field of a place opens a level. -/
theorem Place.suffixCount_le_demand (p : Place) : p.suffixCount ≤ p.demand := by
  cases p with
  | var => exact Nat.zero_le _
  | element base index =>
    simp only [Place.suffixCount, Place.demand]
    omega
  | field base name => exact Nat.le_max_right ..

end SyntaxOutline
