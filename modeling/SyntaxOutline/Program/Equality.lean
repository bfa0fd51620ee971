import SyntaxOutline.Literal.Value

/-!
# Equality of programs

Two programs are the same when they have the same shape, the same texts and, where a literal has
one, the same values. `same` is the test, part by part. A real number that is no number would differ
from itself, but a literal never has such a value; so `same_iff` says that the test decides
equality, and equality of every kind of node is decidable.
-/

namespace SyntaxOutline

/-- Tests two parts for equality that may be missing. -/
def sameOption {α : Type} (same : α → α → Bool) : Option α → Option α → Bool
  | none, none => true
  | some a, some b => same a b
  | _, _ => false

/-- Tests two lists for equality. -/
def sameAll {α : Type} (same : α → α → Bool) : List α → List α → Bool
  | [], [] => true
  | a :: as, b :: bs => same a b && sameAll same as bs
  | _, _ => false

section Parts

variable {α : Type} {same : α → α → Bool} (h : ∀ a b, same a b = true ↔ a = b)

include h

theorem sameOption_iff (a? b? : Option α) : sameOption same a? b? = true ↔ a? = b? := by
  cases a? <;> cases b? <;> simp [sameOption, h]

theorem sameAll_iff (as bs : List α) : sameAll same as bs = true ↔ as = bs := by
  induction as generalizing bs with
  | nil => cases bs <;> simp [sameAll]
  | cons a as ih => cases bs <;> simp [sameAll, h, ih]

end Parts

/-! ## Literals and variables -/

/-- Tests two integer literals for equality: their texts and their values. -/
def IntLiteral.same (a b : IntLiteral) : Bool := a.text == b.text && a.value? == b.value?

theorem IntLiteral.same_iff (a b : IntLiteral) : a.same b = true ↔ a = b := by
  rw [IntLiteral.same, Bool.and_eq_true, beq_iff_eq, beq_iff_eq]
  constructor
  · rintro ⟨htext, -⟩
    obtain ⟨text⟩ := a
    cases htext
    rfl
  · rintro rfl
    exact ⟨rfl, rfl⟩

/-- Tests two real literals for equality: their texts and their values. -/
def RealLiteral.same (a b : RealLiteral) : Bool :=
  a.text == b.text && sameOption Binary64.same a.word? b.word?

/-- The value of a literal, if it has one, is the same as itself. -/
theorem RealLiteral.same_word? (l : RealLiteral) :
    sameOption Binary64.same l.word? l.word? = true := by
  cases hword : l.word? with
  | none => rfl
  | some word =>
    obtain ⟨d, -, hd⟩ := Option.bind_eq_some_iff.mp hword
    have hnan := Binary64.isNaN_ofDecimal? hd
    simp [sameOption, Binary64.same, hnan]

theorem RealLiteral.same_iff (a b : RealLiteral) : a.same b = true ↔ a = b := by
  rw [RealLiteral.same, Bool.and_eq_true, beq_iff_eq]
  constructor
  · rintro ⟨htext, -⟩
    obtain ⟨text⟩ := a
    cases htext
    rfl
  · rintro rfl
    exact ⟨rfl, RealLiteral.same_word? a⟩

/-- Tests two variables for equality. -/
def VarDecl.same (v w : VarDecl) : Bool :=
  v.type == w.type && v.name == w.name && sameOption IntLiteral.same v.size? w.size?

theorem VarDecl.same_iff (v w : VarDecl) : v.same w = true ↔ v = w := by
  obtain ⟨type, name, size?⟩ := v
  obtain ⟨type', name', size?'⟩ := w
  simp [VarDecl.same, sameOption_iff IntLiteral.same_iff, and_assoc]

/-! ## Expressions -/

mutual
/-- Tests two expressions for equality. -/
def Expr.same : Expr → Expr → Bool
  | .int a, .int b => a.same b
  | .real a, .real b => a.same b
  | .string a, .string b => a == b
  | .char a, .char b => a == b
  | .true_, .true_ => true
  | .false_, .false_ => true
  | .null, .null => true
  | .sizeof a, .sizeof b => a == b
  | .bounded a, .bounded b => a.same b
  | .call f as, .call g bs => f == g && Expr.sameList as bs
  | .place a, .place b => a.same b
  | .unary o a, .unary p b => o == p && a.same b
  | .binary o a c, .binary p b d => o == p && a.same b && c.same d
  | _, _ => false

/-- Tests two lists of expressions for equality. -/
def Expr.sameList : List Expr → List Expr → Bool
  | [], [] => true
  | a :: as, b :: bs => a.same b && Expr.sameList as bs
  | _, _ => false

/-- Tests two places for equality. -/
def Place.same : Place → Place → Bool
  | .var a, .var b => a == b
  | .element a i, .element b j => a.same b && i.same j
  | .field a f, .field b g => a.same b && f == g
  | _, _ => false
end

mutual
theorem Expr.same_iff : ∀ e f : Expr, e.same f = true ↔ e = f
  | .int a, f => by cases f <;> simp [Expr.same, IntLiteral.same_iff]
  | .real a, f => by cases f <;> simp [Expr.same, RealLiteral.same_iff]
  | .string _, f | .char _, f | .true_, f | .false_, f | .null, f
  | .sizeof _, f => by cases f <;> simp [Expr.same]
  | .bounded a, f => by cases f <;> simp [Expr.same, Expr.same_iff a]
  | .call g as, f => by cases f <;> simp [Expr.same, Expr.sameList_iff as]
  | .place p, f => by cases f <;> simp [Expr.same, Place.same_iff p]
  | .unary o a, f => by cases f <;> simp [Expr.same, Expr.same_iff a]
  | .binary o a b, f => by
    cases f <;> simp [Expr.same, Expr.same_iff a, Expr.same_iff b, and_assoc]

theorem Expr.sameList_iff : ∀ es fs : List Expr, Expr.sameList es fs = true ↔ es = fs
  | [], fs => by cases fs <;> simp [Expr.sameList]
  | e :: es, fs => by cases fs <;> simp [Expr.sameList, Expr.same_iff e, Expr.sameList_iff es]

theorem Place.same_iff : ∀ p q : Place, p.same q = true ↔ p = q
  | .var _, q => by cases q <;> simp [Place.same]
  | .element a i, q => by cases q <;> simp [Place.same, Place.same_iff a, Expr.same_iff i]
  | .field a f, q => by cases q <;> simp [Place.same, Place.same_iff a]
end

/-- Tests two calls for equality. -/
def Call.same (a b : Call) : Bool := a.name == b.name && Expr.sameList a.arguments b.arguments

theorem Call.same_iff (a b : Call) : a.same b = true ↔ a = b := by
  obtain ⟨name, arguments⟩ := a
  obtain ⟨name', arguments'⟩ := b
  simp [Call.same, Expr.sameList_iff]

/-- Tests two assignments for equality. -/
def Assignment.same (a b : Assignment) : Bool := a.place.same b.place && a.value.same b.value

theorem Assignment.same_iff (a b : Assignment) : a.same b = true ↔ a = b := by
  obtain ⟨place, value⟩ := a
  obtain ⟨place', value'⟩ := b
  simp [Assignment.same, Place.same_iff, Expr.same_iff]

/-! ## Statements -/

mutual
/-- Tests two statements for equality. -/
def Stmt.same : Stmt → Stmt → Bool
  | .assign a, .assign b => a.same b
  | .call a, .call b => a.same b
  | .ifThen c a, .ifThen d b => c.same d && a.same b
  | .ifElse c a x, .ifElse d b y => c.same d && a.same b && x.same y
  | .forLoop i c s a, .forLoop j d t b =>
    sameOption Assignment.same i j && c.same d && sameOption Assignment.same s t && a.same b
  | .whileLoop c a, .whileLoop d b => c.same d && a.same b
  | .return_ a, .return_ b => sameOption Expr.same a b
  | _, _ => false

/-- Tests two lists of statements for equality. -/
def Stmt.sameList : List Stmt → List Stmt → Bool
  | [], [] => true
  | a :: as, b :: bs => a.same b && Stmt.sameList as bs
  | _, _ => false

/-- Tests two blocks for equality. -/
def Block.same : Block → Block → Bool
  | ⟨ds, ss⟩, ⟨es, ts⟩ => sameAll VarDecl.same ds es && Stmt.sameList ss ts
end

mutual
theorem Stmt.same_iff : ∀ s t : Stmt, s.same t = true ↔ s = t
  | .assign _, t => by cases t <;> simp [Stmt.same, Assignment.same_iff]
  | .call _, t => by cases t <;> simp [Stmt.same, Call.same_iff]
  | .ifThen _ a, t => by cases t <;> simp [Stmt.same, Expr.same_iff, Block.same_iff a]
  | .ifElse _ a x, t => by
    cases t <;> simp [Stmt.same, Expr.same_iff, Block.same_iff a, Block.same_iff x, and_assoc]
  | .forLoop _ _ _ a, t => by
    cases t <;> simp [Stmt.same, sameOption_iff Assignment.same_iff, Expr.same_iff,
      Block.same_iff a, and_assoc]
  | .whileLoop _ a, t => by cases t <;> simp [Stmt.same, Expr.same_iff, Block.same_iff a]
  | .return_ _, t => by cases t <;> simp [Stmt.same, sameOption_iff Expr.same_iff]

theorem Stmt.sameList_iff : ∀ ss ts : List Stmt, Stmt.sameList ss ts = true ↔ ss = ts
  | [], ts => by cases ts <;> simp [Stmt.sameList]
  | s :: ss, ts => by cases ts <;> simp [Stmt.sameList, Stmt.same_iff s, Stmt.sameList_iff ss]

theorem Block.same_iff : ∀ a b : Block, a.same b = true ↔ a = b
  | ⟨_, ss⟩, ⟨_, ts⟩ => by
    simp [Block.same, sameAll_iff VarDecl.same_iff, Stmt.sameList_iff ss ts]
end

/-! ## Declarations -/

/-- Tests two parameters for equality. -/
def Formal.same (a b : Formal) : Bool := a.type == b.type && a.name == b.name

theorem Formal.same_iff (a b : Formal) : a.same b = true ↔ a = b := by
  obtain ⟨type, name⟩ := a
  obtain ⟨type', name'⟩ := b
  simp [Formal.same]

/-- Tests two declarations for equality. -/
def Decl.same : Decl → Decl → Bool
  | .var a, .var b => a.same b
  | .prototype t f as, .prototype u g bs => t == u && f == g && sameAll Formal.same as bs
  | .function t f as a, .function u g bs b =>
    t == u && f == g && sameAll Formal.same as bs && a.same b
  | .struct f as, .struct g bs => f == g && sameAll VarDecl.same as bs
  | _, _ => false

theorem Decl.same_iff (c d : Decl) : c.same d = true ↔ c = d := by
  cases c with
  | var a => cases d <;> simp [Decl.same, VarDecl.same_iff]
  | prototype t f as =>
    cases d <;> simp [Decl.same, sameAll_iff Formal.same_iff, and_assoc]
  | function t f as a =>
    cases d <;> simp [Decl.same, sameAll_iff Formal.same_iff, Block.same_iff, and_assoc]
  | struct f as => cases d <;> simp [Decl.same, sameAll_iff VarDecl.same_iff]

/-- Tests two programs for equality. -/
def Program.same (p q : Program) : Bool := sameAll Decl.same p.decls q.decls

theorem Program.same_iff (p q : Program) : p.same q = true ↔ p = q := by
  obtain ⟨ds⟩ := p
  obtain ⟨es⟩ := q
  simp [Program.same, sameAll_iff Decl.same_iff]

instance : DecidableEq Expr := fun e f => decidable_of_iff _ (Expr.same_iff e f)

instance : DecidableEq Place := fun p q => decidable_of_iff _ (Place.same_iff p q)

instance : DecidableEq Call := fun a b => decidable_of_iff _ (Call.same_iff a b)

instance : DecidableEq Assignment := fun a b => decidable_of_iff _ (Assignment.same_iff a b)

instance : DecidableEq Stmt := fun s t => decidable_of_iff _ (Stmt.same_iff s t)

instance : DecidableEq Block := fun a b => decidable_of_iff _ (Block.same_iff a b)

instance : DecidableEq Decl := fun c d => decidable_of_iff _ (Decl.same_iff c d)

instance : DecidableEq Program := fun p q => decidable_of_iff _ (Program.same_iff p q)

end SyntaxOutline
