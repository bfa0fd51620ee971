import SyntaxOutline.Proofs.Program.Demand

/-!
# How deeply a program is nested

`nesting` of a node is the largest number of blocks, parentheses, operators, indices and fields that
stand one inside the other below it. It is not what the parser counts: the operators of a chain
stand one inside the other in the tree, the first operand innermost, but the parser reads that
operand before any of them.

So a program can be nested more deeply than the levels that it needs. A chain can put as many
operators above its first operand as there is room for, each of the six precedences can do so, and
parentheses start all over with one level less. `Program.nesting_le` says that this is the worst
that can happen, and `deepestProgram` that it does happen. What the levels do bound is the number of
nodes on a `Way` down that are `counted`, that is all but those above a first operand
(`Program.counted_le`).
-/

namespace SyntaxOutline

mutual
/-- The nested nodes on the longest way down an expression. -/
def Expr.nesting : Expr → Nat
  | .bounded inner => inner.nesting + 1
  | .call _ arguments => Expr.nestingAll arguments
  | .place p => p.nesting
  | .unary _ operand => operand.nesting + 1
  | .binary _ left right => max left.nesting right.nesting + 1
  | _ => 0

/-- The nested nodes on the longest way down one of some expressions. -/
def Expr.nestingAll : List Expr → Nat
  | [] => 0
  | e :: es => max e.nesting (Expr.nestingAll es)

/-- The nested nodes on the longest way down a place. -/
def Place.nesting : Place → Nat
  | .var _ => 0
  | .element base index => max base.nesting index.nesting + 1
  | .field base _ => base.nesting + 1
end

/-- Arguments are nested as deeply as the deepest of them. -/
theorem Expr.nestingAll_eq (es : List Expr) : Expr.nestingAll es = largest Expr.nesting es := by
  induction es with
  | nil => rfl
  | cons e es ih => rw [Expr.nestingAll, ih, largest]

/-- What a way down passes. The level of a node that is counted is open where the way ends. An
operator above its first operand, or an index or a field above the place that it belongs to, is not
counted: its level is opened behind that part. -/
structure Way where
  counted : Nat
  uncounted : Nat
deriving DecidableEq, Repr

namespace Way

/-- The way that ends where it starts. -/
def start : Way := ⟨0, 0⟩

/-- The way with a counted node before it. -/
def inside (w : Way) : Way := ⟨w.counted + 1, w.uncounted⟩

/-- The way with a node before it that is not counted. -/
def ahead (w : Way) : Way := ⟨w.counted, w.uncounted + 1⟩

/-- All nodes that a way passes. -/
def nodes (w : Way) : Nat := w.counted + w.uncounted

theorem nodes_inside (w : Way) : w.inside.nodes = w.nodes + 1 := Nat.add_right_comm ..

theorem nodes_ahead (w : Way) : w.ahead.nodes = w.nodes + 1 := rfl

end Way

mutual
/-- The ways down an expression, one to each leaf. -/
def Expr.ways : Expr → List Way
  | .bounded inner => inner.ways.map .inside
  | .call _ arguments => .start :: Expr.waysAll arguments
  | .place p => p.ways
  | .unary _ operand => operand.ways.map .inside
  | .binary _ left right => left.ways.map .ahead ++ right.ways.map .inside
  | _ => [.start]

/-- The ways down some expressions. -/
def Expr.waysAll : List Expr → List Way
  | [] => []
  | e :: es => e.ways ++ Expr.waysAll es

/-- The ways down a place. -/
def Place.ways : Place → List Way
  | .var _ => [.start]
  | .element base index => base.ways.map .ahead ++ index.ways.map .inside
  | .field base _ => base.ways.map .ahead ++ [Way.start.inside]
end

/-- The ways down an assignment. -/
def Assignment.ways (a : Assignment) : List Way := a.place.ways ++ a.value.ways

/-- The ways down a part that may be missing. -/
def ways? {α : Type} (ways : α → List Way) (a? : Option α) : List Way := (a?.map ways).getD []

mutual
/-- The ways down a statement. -/
def Stmt.ways : Stmt → List Way
  | .assign a => a.ways
  | .call c => .start :: Expr.waysAll c.arguments
  | .ifThen c body => c.ways ++ body.ways.map .inside
  | .ifElse c body other => c.ways ++ (body.ways.map .inside ++ other.ways.map .inside)
  | .forLoop start? c step? body =>
    ways? Assignment.ways start? ++
      (c.ways ++ (ways? Assignment.ways step? ++ body.ways.map .inside))
  | .whileLoop c body => c.ways ++ body.ways.map .inside
  | .return_ e? => ways? Expr.ways e?

/-- The ways down some statements. -/
def Stmt.waysAll : List Stmt → List Way
  | [] => []
  | s :: ss => s.ways ++ Stmt.waysAll ss

/-- The ways down a block, from behind the block itself. -/
def Block.ways : Block → List Way
  | ⟨_, stmts⟩ => .start :: Stmt.waysAll stmts
end

/-- The ways down a declaration; the body of a function is not nested. -/
def Decl.ways : Decl → List Way
  | .function _ _ _ body => body.ways
  | _ => [.start]

/-- The ways down a program. -/
def Program.ways (p : Program) : List Way := p.decls.flatMap Decl.ways

section

variable (ofExpr : Expr → Nat) (ofPlace : Place → Nat)

/-- The most that the place or the value of an assignment comes to. -/
def Assignment.depthBy (a : Assignment) : Nat := max (ofPlace a.place) (ofExpr a.value)

mutual
/-- The most that a place or an expression of a statement comes to, and one more for each block
around it. -/
def Stmt.depthBy : Stmt → Nat
  | .assign a => a.depthBy ofExpr ofPlace
  | .call c => largest ofExpr c.arguments
  | .ifThen c body => max (ofExpr c) (body.depthBy + 1)
  | .ifElse c body other => max (ofExpr c) (max (body.depthBy + 1) (other.depthBy + 1))
  | .forLoop start? c step? body =>
    max (largest? (Assignment.depthBy ofExpr ofPlace) start?)
      (max (ofExpr c)
        (max (largest? (Assignment.depthBy ofExpr ofPlace) step?) (body.depthBy + 1)))
  | .whileLoop c body => max (ofExpr c) (body.depthBy + 1)
  | .return_ e? => largest? ofExpr e?

/-- The same for the deepest of some statements. -/
def Stmt.depthAllBy : List Stmt → Nat
  | [] => 0
  | s :: ss => max s.depthBy (Stmt.depthAllBy ss)

/-- The same for a block, without the block itself. -/
def Block.depthBy : Block → Nat
  | ⟨_, stmts⟩ => Stmt.depthAllBy stmts
end

/-- The same for a declaration; the body of a function is not nested. -/
def Decl.depthBy : Decl → Nat
  | .function _ _ _ body => body.depthBy ofExpr ofPlace
  | _ => 0

/-- The same for a program. -/
def Program.depthBy (p : Program) : Nat := largest (Decl.depthBy ofExpr ofPlace) p.decls

end

/-- The nested nodes on the longest way down a program. -/
def Program.nesting (p : Program) : Nat := p.depthBy Expr.nesting Place.nesting

/-! ## The longest way -/

/-- The largest of two lists together. -/
theorem largest_append {α : Type} (f : α → Nat) (as bs : List α) :
    largest f (as ++ bs) = max (largest f as) (largest f bs) := by
  induction as with
  | nil => exact (Nat.zero_max _).symm
  | cons a as ih => rw [List.cons_append, largest, ih, largest, Nat.max_assoc]

/-- The largest of what is made from each element. -/
theorem largest_flatMap {α β : Type} (f : β → Nat) (g : α → List β) (as : List α) :
    largest f (as.flatMap g) = largest (fun a => largest f (g a)) as := by
  induction as with
  | nil => rfl
  | cons a as ih => rw [List.flatMap_cons, largest_append, ih, largest]

/-- The largest of the ways into a part that may be missing. -/
theorem largest_ways? {α : Type} (measure : Way → Nat) (ways : α → List Way) (a? : Option α) :
    largest measure (ways? ways a?) = largest? (fun a => largest measure (ways a)) a? := by
  cases a? <;> rfl

/-- The ways into arguments are those into each of them. -/
theorem Expr.waysAll_eq (es : List Expr) : Expr.waysAll es = es.flatMap Expr.ways := by
  induction es with
  | nil => rfl
  | cons e es ih => rw [Expr.waysAll, ih, List.flatMap_cons]

/-- One more node at the start makes the longest of some ways longer by one. There has to be
a way. -/
theorem largest_map_succ {measure : Way → Nat} {step : Way → Way}
    (hstep : ∀ w, measure (step w) = measure w + 1) {ws : List Way} (hws : ws ≠ []) :
    largest measure (ws.map step) = largest measure ws + 1 := by
  induction ws with
  | nil => exact absurd rfl hws
  | cons w ws ih =>
    rw [List.map_cons, largest, largest, hstep]
    cases ws with
    | nil => simp [largest]
    | cons v ws =>
      rw [ih (List.cons_ne_nil v ws)]
      omega

mutual
/-- There is a way into every expression, if only the one that ends there. -/
theorem Expr.ways_ne_nil : ∀ e : Expr, e.ways ≠ []
  | .int _ | .real _ | .string _ | .char _ | .true_ | .false_ | .null | .sizeof _
  | .call _ _ => List.cons_ne_nil _ _
  | .bounded inner => mt List.map_eq_nil_iff.mp inner.ways_ne_nil
  | .place p => p.ways_ne_nil
  | .unary _ operand => mt List.map_eq_nil_iff.mp operand.ways_ne_nil
  | .binary _ left _ =>
    List.append_ne_nil_of_left_ne_nil (mt List.map_eq_nil_iff.mp left.ways_ne_nil) _

theorem Place.ways_ne_nil : ∀ p : Place, p.ways ≠ []
  | .var _ => List.cons_ne_nil _ _
  | .element base _ =>
    List.append_ne_nil_of_left_ne_nil (mt List.map_eq_nil_iff.mp base.ways_ne_nil) _
  | .field base _ =>
    List.append_ne_nil_of_left_ne_nil (mt List.map_eq_nil_iff.mp base.ways_ne_nil) _
end

theorem Block.ways_ne_nil : ∀ b : Block, b.ways ≠ []
  | ⟨_, _⟩ => List.cons_ne_nil _ _

mutual
/-- The nesting of an expression is the number of nodes on the longest way down. -/
theorem Expr.largest_nodes : ∀ e : Expr, largest Way.nodes e.ways = e.nesting
  | .int _ | .real _ | .string _ | .char _ | .true_ | .false_ | .null | .sizeof _ => rfl
  | .bounded inner => by
    rw [Expr.ways, largest_map_succ Way.nodes_inside inner.ways_ne_nil, inner.largest_nodes,
      Expr.nesting]
  | .call _ es => by
    rw [Expr.ways, largest, Expr.largest_nodesAll es, Expr.nesting]
    exact Nat.zero_max _
  | .place p => by rw [Expr.ways, p.largest_nodes, Expr.nesting]
  | .unary _ operand => by
    rw [Expr.ways, largest_map_succ Way.nodes_inside operand.ways_ne_nil, operand.largest_nodes,
      Expr.nesting]
  | .binary _ left right => by
    rw [Expr.ways, largest_append, largest_map_succ Way.nodes_ahead left.ways_ne_nil,
      largest_map_succ Way.nodes_inside right.ways_ne_nil, left.largest_nodes,
      right.largest_nodes, Expr.nesting]
    omega

theorem Expr.largest_nodesAll : ∀ es : List Expr,
    largest Way.nodes (Expr.waysAll es) = Expr.nestingAll es
  | [] => rfl
  | e :: es => by
    rw [Expr.waysAll, largest_append, e.largest_nodes, Expr.largest_nodesAll es, Expr.nestingAll]

theorem Place.largest_nodes : ∀ p : Place, largest Way.nodes p.ways = p.nesting
  | .var _ => rfl
  | .element base index => by
    rw [Place.ways, largest_append, largest_map_succ Way.nodes_ahead base.ways_ne_nil,
      largest_map_succ Way.nodes_inside index.ways_ne_nil, base.largest_nodes,
      index.largest_nodes, Place.nesting]
    omega
  | .field base _ => by
    have hname : largest Way.nodes [Way.start.inside] = 1 := rfl
    rw [Place.ways, largest_append, largest_map_succ Way.nodes_ahead base.ways_ne_nil, hname,
      base.largest_nodes, Place.nesting]
    omega
end

section

variable {measure : Way → Nat}

theorem Assignment.largest_ways (a : Assignment) : largest measure a.ways =
    a.depthBy (fun e => largest measure e.ways) fun p => largest measure p.ways :=
  largest_append measure a.place.ways a.value.ways

mutual
/-- For any measure of ways to which a block adds one, the longest way down a statement is put
together from those down its expressions and places. -/
theorem Stmt.largest_ways (hstart : measure .start = 0)
    (hinside : ∀ w, measure w.inside = measure w + 1) : ∀ s : Stmt, largest measure s.ways =
      s.depthBy (fun e => largest measure e.ways) fun p => largest measure p.ways
  | .assign a => by
    rw [Stmt.ways, Assignment.largest_ways, Stmt.depthBy]
  | .call c => by
    rw [Stmt.ways, largest, hstart, Expr.waysAll_eq, largest_flatMap, Nat.zero_max, Stmt.depthBy]
  | .ifThen c body => by
    rw [Stmt.ways, largest_append, largest_map_succ hinside body.ways_ne_nil,
      Block.largest_ways hstart hinside body, Stmt.depthBy]
  | .ifElse c body other => by
    rw [Stmt.ways, largest_append, largest_append, largest_map_succ hinside body.ways_ne_nil,
      largest_map_succ hinside other.ways_ne_nil, Block.largest_ways hstart hinside body,
      Block.largest_ways hstart hinside other, Stmt.depthBy]
  | .forLoop start? c step? body => by
    -- The start and the step are measured as assignments of their own.
    have hassign : (fun a : Assignment => largest measure a.ways) = Assignment.depthBy
        (fun e => largest measure e.ways) fun p => largest measure p.ways :=
      funext Assignment.largest_ways
    rw [Stmt.ways, largest_append, largest_append, largest_append, largest_ways?, largest_ways?,
      largest_map_succ hinside body.ways_ne_nil, Block.largest_ways hstart hinside body,
      hassign, Stmt.depthBy]
  | .whileLoop c body => by
    rw [Stmt.ways, largest_append, largest_map_succ hinside body.ways_ne_nil,
      Block.largest_ways hstart hinside body, Stmt.depthBy]
  | .return_ e? => by rw [Stmt.ways, largest_ways?, Stmt.depthBy]

theorem Stmt.largest_waysAll (hstart : measure .start = 0)
    (hinside : ∀ w, measure w.inside = measure w + 1) : ∀ ss : List Stmt,
    largest measure (Stmt.waysAll ss) =
      Stmt.depthAllBy (fun e => largest measure e.ways) (fun p => largest measure p.ways) ss
  | [] => rfl
  | s :: ss => by
    rw [Stmt.waysAll, largest_append, Stmt.largest_ways hstart hinside s,
      Stmt.largest_waysAll hstart hinside ss, Stmt.depthAllBy]

theorem Block.largest_ways (hstart : measure .start = 0)
    (hinside : ∀ w, measure w.inside = measure w + 1) : ∀ b : Block, largest measure b.ways =
      b.depthBy (fun e => largest measure e.ways) fun p => largest measure p.ways
  | ⟨_, ss⟩ => by
    rw [Block.ways, largest, hstart, Stmt.largest_waysAll hstart hinside ss, Nat.zero_max,
      Block.depthBy]
end

theorem Program.largest_ways (hstart : measure .start = 0)
    (hinside : ∀ w, measure w.inside = measure w + 1) (p : Program) :
    largest measure p.ways =
      p.depthBy (fun e => largest measure e.ways) fun p => largest measure p.ways := by
  have hdecl : ∀ d : Decl, largest measure d.ways =
      d.depthBy (fun e => largest measure e.ways) fun p => largest measure p.ways := by
    intro d
    cases d with
    | function t name fs body => exact body.largest_ways hstart hinside
    | _ => exact (Nat.max_zero _).trans hstart
  rw [Program.ways, largest_flatMap, Program.depthBy, funext hdecl]

end

/-- The nesting of a program is the number of nodes on the longest way down. -/
theorem Program.largest_nodes (p : Program) : largest Way.nodes p.ways = p.nesting := by
  rw [Program.largest_ways rfl Way.nodes_inside, funext Expr.largest_nodes,
    funext Place.largest_nodes, Program.nesting]

/-! ## The bound -/

/-- The deepest nesting of an operand that needs at most `room` levels: parentheses around a chain
of each of the six precedences, each chain as long as the levels that are left allow. -/
def deepestOperand : Nat → Nat
  | 0 => 0
  | room + 1 => 6 * room + deepestOperand room + 1

/-- The deepest nesting of an expression that needs at most `room` levels. -/
def deepestExpr (room : Nat) : Nat := 6 * room + deepestOperand room

theorem deepestOperand_succ (room : Nat) : deepestOperand (room + 1) = deepestExpr room + 1 := rfl

/-- An operand of some room: its nesting, as the chain of a level and as an operand of one. -/
def NestedWithin (e : Expr) : Prop :=
  ∀ (level : Level) (room : Nat), e.looseness ≤ level.rank + 1 → e.demand ≤ room →
    e.nesting ≤ e.chainLength level + level.rank * room + deepestOperand room

namespace NestedWithin

variable {e : Expr}

/-- What is not joined by an operator. -/
theorem of_operand
    (h : ∀ room, e.demand ≤ room → e.nesting ≤ deepestOperand room) : NestedWithin e := by
  intro level room _ hd
  have hoperand := h room hd
  omega

/-- An expression that is no chain only goes on one level further in. -/
theorem operand (h : NestedWithin e) (hl : e.looseness = 0) {room : Nat} (hd : e.demand ≤ room) :
    e.nesting ≤ deepestOperand room := by
  have hchain := h .multiplicative room (by omega) hd
  have hnone : e.chainLength .multiplicative = 0 := Expr.chainLength_eq_zero (by omega)
  simp only [Level.rank, hnone] at hchain
  omega

/-- An operand of a level is a chain of the next tighter level, and the chain fits in the room. -/
theorem operand_of (h : NestedWithin e) {rank room : Nat} (hl : e.looseness ≤ rank)
    (hrank : rank ≤ Level.bitOr.rank + 1) (hd : e.demand ≤ room) :
    e.nesting ≤ rank * room + deepestOperand room := by
  cases rank with
  | zero =>
    have hoperand := h.operand (Nat.le_zero.mp hl) hd
    omega
  | succ rank =>
    obtain ⟨level, rfl⟩ : ∃ level : Level, level.rank = rank := Level.exists_rank (by omega)
    have hchain := h level room hl hd
    have hlength := Expr.chainLength_le_demand level e
    rw [Nat.succ_mul]
    omega

/-- No expression is nested deeper than the loosest chain can be. -/
theorem full (h : NestedWithin e) {room : Nat} (hd : e.demand ≤ room) :
    e.nesting ≤ deepestExpr room :=
  h.operand_of (Expr.looseness_le e) (Nat.le_refl _) hd

/-- The left end of a chain is read before the levels of the chain are opened, so each precedence
may take all the room again. -/
theorem binary {op : BinaryOp} {left right : Expr} (hleft : NestedWithin left)
    (hright : NestedWithin right) (hll : left.looseness ≤ op.level.rank + 1)
    (hrl : right.looseness ≤ op.level.rank) : NestedWithin (.binary op left right) := by
  intro level room hl hd
  simp only [Expr.demand] at hd
  have hrank := Level.rank_le op.level
  -- The left operand has the chain so far above its own operands; the right one starts below it.
  have hl' := hleft op.level room hll (by omega)
  have hr' : right.nesting ≤ op.level.rank * room + deepestOperand room :=
    hright.operand_of hrl (by omega) (by omega)
  have hown : (Expr.binary op left right).nesting ≤
      left.chainLength op.level + 1 + op.level.rank * room + deepestOperand room := by
    simp only [Expr.nesting]
    omega
  by_cases hlevel : op.level = level
  · subst hlevel
    rw [Expr.chainLength, if_pos rfl]
    exact hown
  · -- The chain is an operand of the looser level, and it fits in the room.
    have hne : op.level.rank ≠ level.rank := fun h => hlevel (Level.rank_inj h)
    have hlt : op.level.rank + 1 ≤ level.rank := by
      simp only [Expr.looseness] at hl
      omega
    have hmul : (op.level.rank + 1) * room ≤ level.rank * room := Nat.mul_le_mul_right room hlt
    rw [Nat.succ_mul] at hmul
    omega

/-- Parentheses are one node and one level. -/
theorem bounded {inner : Expr} (h : NestedWithin inner) : NestedWithin (.bounded inner) := by
  refine of_operand ?_
  intro room hd
  cases room with
  | zero => exact absurd hd (Nat.not_succ_le_zero _)
  | succ room =>
    have hinner := h.full (Nat.le_of_succ_le_succ hd)
    rw [deepestOperand_succ]
    exact Nat.succ_le_succ hinner

/-- So is an operator in front of an operand. -/
theorem unary {op : UnaryOp} {operand : Expr} (h : NestedWithin operand) :
    NestedWithin (.unary op operand) := by
  refine of_operand ?_
  intro room hd
  cases room with
  | zero => exact absurd hd (Nat.not_succ_le_zero _)
  | succ room =>
    have hoperand := h.full (Nat.le_of_succ_le_succ hd)
    rw [deepestOperand_succ]
    exact Nat.succ_le_succ hoperand

/-- A full expression in some room, one level of which it opens itself. -/
theorem fullDemand (h : NestedWithin e) {room : Nat} (hd : e.fullDemand ≤ room) :
    e.nesting ≤ deepestExpr (room - 1) :=
  h.full (Nat.le_sub_one_of_lt hd)

/-- Arguments are bounded one level further in. -/
theorem arguments {es : List Expr} (h : ∀ e ∈ es, NestedWithin e) {room : Nat}
    (hd : Expr.demandArguments es ≤ room) : Expr.nestingAll es ≤ deepestExpr (room - 1) := by
  rw [Expr.demandArguments_eq, largest_le] at hd
  rw [Expr.nestingAll_eq, largest_le]
  exact fun e he => (h e he).fullDemand (hd e he)

/-- A call is one node around its arguments. -/
theorem call {name : String} {es : List Expr} (h : ∀ e ∈ es, NestedWithin e) :
    NestedWithin (.call name es) := by
  refine of_operand ?_
  intro room hd
  have hes := arguments h hd
  cases room with
  | zero => exact hes
  | succ room =>
    rw [deepestOperand_succ]
    exact Nat.le_succ_of_le hes

end NestedWithin

/-- A place of some room. An index is a full expression behind at least one `[`, so what is nested
in it has two levels less. -/
def PlaceNestedWithin (p : Place) : Prop :=
  ∀ room, p.demand ≤ room → p.nesting ≤ p.suffixCount + deepestOperand (room - 1)

namespace PlaceNestedWithin

/-- A name is nested in nothing. -/
theorem var (name : String) : PlaceNestedWithin (.var name) := fun _ _ => Nat.zero_le _

/-- An index is one more node on the place, and a full expression of its own. -/
theorem element {base : Place} {index : Expr} (hbase : PlaceNestedWithin base)
    (hindex : NestedWithin index) : PlaceNestedWithin (.element base index) := by
  intro room hd
  simp only [Place.demand] at hd
  obtain ⟨below, rfl⟩ : ∃ below, room = below + 2 := ⟨room - 2, by omega⟩
  have hb := hbase (below + 2) (by omega)
  have hi : index.nesting ≤ deepestExpr below := hindex.full (by omega)
  have hpred : below + 2 - 1 = below + 1 := rfl
  rw [hpred, deepestOperand_succ] at hb ⊢
  simp only [Place.nesting, Place.suffixCount]
  omega

/-- A field is one more node on the place. -/
theorem field {base : Place} (hbase : PlaceNestedWithin base) (name : String) :
    PlaceNestedWithin (.field base name) := by
  intro room hd
  simp only [Place.demand] at hd
  have hb := hbase room (by omega)
  simp only [Place.nesting, Place.suffixCount]
  omega

/-- A place of that many levels is bounded by them, and by its deepest index. -/
theorem room {p : Place} (h : PlaceNestedWithin p) {room : Nat} (hd : p.demand ≤ room) :
    p.nesting ≤ room + deepestOperand (room - 1) := by
  have hp := h room hd
  have hcount := Place.suffixCount_le_demand p
  omega

/-- A place is nested less deeply than what parentheses can hold. -/
theorem operand {p : Place} (h : PlaceNestedWithin p) : NestedWithin (.place p) := by
  refine NestedWithin.of_operand ?_
  intro room hd
  have hp : p.nesting ≤ _ := h.room hd
  cases room with
  | zero => exact hp
  | succ room =>
    rw [deepestOperand_succ, deepestExpr]
    simp only [Expr.nesting, Nat.add_sub_cancel] at hp ⊢
    omega

end PlaceNestedWithin

mutual
/-- The bound holds of every expression the grammar allows. -/
theorem nestedWithin : ∀ e : Expr, e.isCanonical = true → NestedWithin e
  | .int _, _ | .real _, _ | .string _, _ | .char _, _ | .true_, _ | .false_, _ | .null, _
  | .sizeof _, _ => .of_operand fun _ _ => Nat.zero_le _
  | .bounded inner, h => by
    rw [Expr.isCanonical] at h
    exact .bounded (nestedWithin inner h)
  | .call _ es, h => by
    rw [Expr.isCanonical] at h
    exact .call (nestedWithin_all es h)
  | .place p, h => by
    rw [Expr.isCanonical] at h
    exact (placeNestedWithin p h).operand
  | .unary _ operand, h => by
    rw [Expr.isCanonical, Bool.and_eq_true] at h
    exact .unary (nestedWithin operand h.2)
  | .binary _ left right, h => by
    simp only [Expr.isCanonical, Bool.and_eq_true, decide_eq_true_eq] at h
    obtain ⟨⟨⟨hll, hrl⟩, hlc⟩, hrc⟩ := h
    exact .binary (nestedWithin left hlc) (nestedWithin right hrc) hll hrl

theorem nestedWithin_all : ∀ es : List Expr, Expr.areCanonical es = true →
    ∀ e ∈ es, NestedWithin e
  | [], _ => nofun
  | e :: es, h => by
    rw [Expr.areCanonical, Bool.and_eq_true] at h
    exact List.forall_mem_cons.mpr ⟨nestedWithin e h.1, nestedWithin_all es h.2⟩

theorem placeNestedWithin : ∀ p : Place, p.isCanonical = true → PlaceNestedWithin p
  | .var name, _ => .var name
  | .element base index, h => by
    rw [Place.isCanonical, Bool.and_eq_true] at h
    exact .element (placeNestedWithin base h.1) (nestedWithin index h.2)
  | .field base name, h => by
    rw [Place.isCanonical] at h
    exact .field (placeNestedWithin base h) name
end

/-! ## Statements -/

/-- What is known of the measures of expressions and places that `depthBy` puts together: the levels
that are needed bound them, and the bound has room for a block. -/
structure BoundedBy (ofExpr : Expr → Nat) (ofPlace : Place → Nat) (bound : Nat → Nat) : Prop where
  expr : ∀ {e : Expr} {room : Nat}, e.isCanonical = true → e.fullDemand ≤ room →
    ofExpr e ≤ bound room
  place : ∀ {p : Place} {room : Nat}, p.isCanonical = true → p.demand ≤ room →
    ofPlace p ≤ bound room
  block : ∀ room, bound room + 1 ≤ bound (room + 1)

namespace BoundedBy

variable {ofExpr : Expr → Nat} {ofPlace : Place → Nat} {bound : Nat → Nat}

theorem arguments (h : BoundedBy ofExpr ofPlace bound) {es : List Expr}
    (hc : Expr.areCanonical es = true) {room : Nat} (hd : Expr.demandArguments es ≤ room) :
    largest ofExpr es ≤ bound room := by
  rw [Expr.areCanonical_iff] at hc
  rw [Expr.demandArguments_eq, largest_le] at hd
  rw [largest_le]
  exact fun e he => h.expr (hc e he) (hd e he)

theorem assignment (h : BoundedBy ofExpr ofPlace bound) {a : Assignment}
    (hc : a.isCanonical = true) {room : Nat} (hd : a.demand ≤ room) :
    a.depthBy ofExpr ofPlace ≤ bound room := by
  rw [Assignment.isCanonical, Bool.and_eq_true] at hc
  obtain ⟨hpd, hvd⟩ := Nat.max_le.mp hd
  exact Nat.max_le.mpr ⟨h.place hc.1 hpd, h.expr hc.2 hvd⟩

/-- The start or the step of a loop. -/
theorem assignment? (h : BoundedBy ofExpr ofPlace bound) {a? : Option Assignment}
    (hc : a?.all Assignment.isCanonical = true) {room : Nat}
    (hd : largest? Assignment.demand a? ≤ room) :
    largest? (Assignment.depthBy ofExpr ofPlace) a? ≤ bound room := by
  rw [largest?_le] at hd ⊢
  rintro a rfl
  exact h.assignment hc (hd a rfl)

mutual
/-- Statements. A block takes a level and so may be one deeper, which the bound allows for. -/
theorem stmt (h : BoundedBy ofExpr ofPlace bound) : ∀ (s : Stmt) {room : Nat},
    s.isCanonical = true → s.demand ≤ room → s.depthBy ofExpr ofPlace ≤ bound room
  | .assign a, room, hc, hd => by
    rw [Stmt.isCanonical] at hc
    exact h.assignment hc hd
  | .call c, room, hc, hd => by
    rw [Stmt.isCanonical] at hc
    exact h.arguments hc hd
  | .ifThen c body, room, hc, hd => by
    rw [Stmt.isCanonical, Bool.and_eq_true] at hc
    obtain ⟨hcd, hbd⟩ := Nat.max_le.mp hd
    exact Nat.max_le.mpr ⟨h.expr hc.1 hcd, h.nested body hc.2 hbd⟩
  | .ifElse c body other, room, hc, hd => by
    rw [Stmt.isCanonical, Bool.and_eq_true, Bool.and_eq_true] at hc
    obtain ⟨hcd, hd'⟩ := Nat.max_le.mp hd
    obtain ⟨hbd, hod⟩ := Nat.max_le.mp hd'
    exact Nat.max_le.mpr ⟨h.expr hc.1.1 hcd,
      Nat.max_le.mpr ⟨h.nested body hc.1.2 hbd, h.nested other hc.2 hod⟩⟩
  | .forLoop start? c step? body, room, hc, hd => by
    rw [Stmt.isCanonical, Bool.and_eq_true, Bool.and_eq_true, Bool.and_eq_true] at hc
    obtain ⟨hsd, hd'⟩ := Nat.max_le.mp hd
    obtain ⟨hcd, hd''⟩ := Nat.max_le.mp hd'
    obtain ⟨htd, hbd⟩ := Nat.max_le.mp hd''
    exact Nat.max_le.mpr ⟨h.assignment? hc.1.1.1 hsd,
      Nat.max_le.mpr ⟨h.expr hc.1.1.2 hcd,
        Nat.max_le.mpr ⟨h.assignment? hc.1.2 htd, h.nested body hc.2 hbd⟩⟩⟩
  | .whileLoop c body, room, hc, hd => by
    rw [Stmt.isCanonical, Bool.and_eq_true] at hc
    obtain ⟨hcd, hbd⟩ := Nat.max_le.mp hd
    exact Nat.max_le.mpr ⟨h.expr hc.1 hcd, h.nested body hc.2 hbd⟩
  | .return_ e?, room, hc, hd => by
    rw [Stmt.isCanonical] at hc
    rw [Stmt.demand, largest?_le] at hd
    rw [Stmt.depthBy, largest?_le]
    rintro e rfl
    exact h.expr hc (hd e rfl)

theorem stmts (h : BoundedBy ofExpr ofPlace bound) : ∀ (ss : List Stmt) {room : Nat},
    Stmt.areCanonical ss = true → Stmt.demandAll ss ≤ room →
    Stmt.depthAllBy ofExpr ofPlace ss ≤ bound room
  | [], _, _, _ => Nat.zero_le _
  | s :: ss, room, hc, hd => by
    rw [Stmt.areCanonical, Bool.and_eq_true] at hc
    obtain ⟨hsd, hssd⟩ := Nat.max_le.mp hd
    exact Nat.max_le.mpr ⟨h.stmt s hc.1 hsd, h.stmts ss hc.2 hssd⟩

/-- What stands in a block. -/
theorem contents (h : BoundedBy ofExpr ofPlace bound) : ∀ (b : Block) {room : Nat},
    b.isCanonical = true → b.demand ≤ room → b.depthBy ofExpr ofPlace ≤ bound room
  | ⟨_, ss⟩, room, hc, hd => by
    rw [Block.isCanonical] at hc
    exact h.stmts ss hc hd

/-- A block takes one level, and the bound has room for it. -/
theorem nested (h : BoundedBy ofExpr ofPlace bound) : ∀ (b : Block) {room : Nat},
    b.isCanonical = true → b.demand + 1 ≤ room → b.depthBy ofExpr ofPlace + 1 ≤ bound room
  | b, 0, _, hd => absurd hd (Nat.not_succ_le_zero _)
  | b, room + 1, hc, hd => by
    have hb := h.contents b hc (Nat.le_of_succ_le_succ hd)
    exact Nat.le_trans (Nat.succ_le_succ hb) (h.block room)
end

/-- A measure that the levels bound for expressions and places is bounded for programs. -/
theorem program (h : BoundedBy ofExpr ofPlace bound) {p : Program} (hc : p.isCanonical = true)
    {room : Nat} (hd : p.demand ≤ room) : p.depthBy ofExpr ofPlace ≤ bound room := by
  rw [Program.demand, largest_le] at hd
  rw [Program.depthBy, largest_le]
  intro d hmem
  have hdd := hd d hmem
  have hdc := List.all_eq_true.mp hc d hmem
  cases d with
  | function t name fs body => exact h.contents body hdc hdd
  | _ => exact Nat.zero_le _

end BoundedBy

/-- The deepest nesting of a statement that needs at most `room` levels: that of an expression, or
of blocks alone where there is hardly any room. -/
def deepestStmt (room : Nat) : Nat := max room (deepestExpr (room - 1))

/-- The nesting of expressions and places is bounded as is that of statements. -/
theorem boundedBy_nesting : BoundedBy Expr.nesting Place.nesting deepestStmt where
  expr hc hd := Nat.le_trans ((nestedWithin _ hc).fullDemand hd) (Nat.le_max_right ..)
  place {p room} hc hd := by
    have hp := (placeNestedWithin p hc).room hd
    -- With one level or none, a place has a field at most; with more, an expression is deeper.
    match room, hp with
    | 0, hp => exact hp
    | 1, hp => exact hp
    | room + 2, hp =>
      simp only [deepestStmt, deepestExpr, Nat.reduceSubDiff] at hp ⊢
      omega
  block room := by
    cases room with
    | zero => decide
    | succ room =>
      simp only [deepestStmt, Nat.add_sub_cancel, deepestExpr, deepestOperand]
      omega

/-- A program that keeps to the precedence of its operators is nested at most so deeply. -/
theorem Program.nesting_le {p : Program} (hc : p.isCanonical = true) {room : Nat}
    (hd : p.demand ≤ room) : p.nesting ≤ deepestStmt room :=
  boundedBy_nesting.program hc hd

/-! ## What the levels do bound -/

mutual
/-- A counted node has its level open where the way ends. -/
theorem Expr.counted_le_demand : ∀ (e : Expr), ∀ w ∈ e.ways, w.counted ≤ e.demand
  | .int _ | .real _ | .string _ | .char _ | .true_ | .false_ | .null | .sizeof _ =>
    List.forall_mem_singleton.mpr (Nat.zero_le _)
  | .bounded inner => by
    rw [Expr.ways, List.forall_mem_map]
    exact fun w hw => Nat.succ_le_succ (inner.counted_le_demand w hw)
  | .call _ es => by
    rw [Expr.ways, List.forall_mem_cons]
    exact ⟨Nat.zero_le _, Expr.counted_le_demandArguments es⟩
  | .place p => p.counted_le_demand
  | .unary _ operand => by
    rw [Expr.ways, List.forall_mem_map]
    exact fun w hw => Nat.succ_le_succ (operand.counted_le_demand w hw)
  | .binary _ left right => by
    rw [Expr.ways, List.forall_mem_append, List.forall_mem_map, List.forall_mem_map, Expr.demand]
    -- The operator counts on the way to its second operand only.
    refine ⟨fun w hw => ?_, fun w hw => ?_⟩
    · have hleft := left.counted_le_demand w hw
      show w.counted ≤ _
      omega
    · have hright := right.counted_le_demand w hw
      show w.counted + 1 ≤ _
      omega

theorem Expr.counted_le_demandArguments : ∀ (es : List Expr), ∀ w ∈ Expr.waysAll es,
    w.counted ≤ Expr.demandArguments es
  | [] => List.forall_mem_nil _
  | e :: es => by
    rw [Expr.waysAll, List.forall_mem_append, Expr.demandArguments]
    refine ⟨fun w hw => ?_, fun w hw => ?_⟩
    · have he := e.counted_le_demand w hw
      omega
    · have hes := Expr.counted_le_demandArguments es w hw
      omega

theorem Place.counted_le_demand : ∀ (p : Place), ∀ w ∈ p.ways, w.counted ≤ p.demand
  | .var _ => List.forall_mem_singleton.mpr (Nat.zero_le _)
  | .element base index => by
    rw [Place.ways, List.forall_mem_append, List.forall_mem_map, List.forall_mem_map, Place.demand]
    refine ⟨fun w hw => ?_, fun w hw => ?_⟩
    · have hbase := base.counted_le_demand w hw
      show w.counted ≤ _
      omega
    · have hindex := index.counted_le_demand w hw
      show w.counted + 1 ≤ _
      omega
  | .field base _ => by
    rw [Place.ways, List.forall_mem_append, List.forall_mem_map, List.forall_mem_singleton,
      Place.demand]
    refine ⟨fun w hw => ?_, ?_⟩
    · have hbase := base.counted_le_demand w hw
      show w.counted ≤ _
      omega
    · show 1 ≤ _
      omega
end

/-- The nodes of a way that are counted are bounded by the levels themselves. -/
theorem boundedBy_counted :
    BoundedBy (fun e => largest Way.counted e.ways) (fun p => largest Way.counted p.ways)
      fun room => room where
  expr {e _} _ hd := Nat.le_trans (Nat.le_succ_of_le (largest_le.mpr e.counted_le_demand)) hd
  place {p _} _ hd := Nat.le_trans (largest_le.mpr p.counted_le_demand) hd
  block room := Nat.le_refl (room + 1)

/-- On no way down are more nodes counted than the program needs levels. -/
theorem Program.counted_le {p : Program} (hc : p.isCanonical = true) {room : Nat}
    (hd : p.demand ≤ room) : ∀ w ∈ p.ways, w.counted ≤ room := by
  rw [← largest_le, Program.largest_ways rfl fun _ => rfl]
  exact boundedBy_counted.program hc hd

/-! ## The bound is reached -/

/-- What is known of an expression that a chain is built around. -/
structure Expr.Nested (rank room depth : Nat) (e : Expr) : Prop where
  canonical : e.isCanonical = true
  looseness : e.looseness ≤ rank
  demand : e.demand ≤ room
  nesting : e.nesting = depth

/-- A chain of `n` operators with `e` as its first operand. -/
def Expr.chained (op : BinaryOp) (n : Nat) (e : Expr) : Expr :=
  n.repeat (fun left => .binary op left .null) e

/-- A chain of operators one level looser reaches as many nodes further, up to the room there is. -/
theorem Expr.Nested.chained_of_le {op : BinaryOp} {room depth : Nat} {e : Expr}
    (h : e.Nested op.level.rank room depth) {n : Nat} (hn : n ≤ room) :
    (Expr.chained op n e).chainLength op.level = n ∧
      (Expr.chained op n e).Nested (op.level.rank + 1) room (n + depth) := by
  obtain ⟨hc, hl, hd, hnest⟩ := h
  induction n with
  | zero =>
    refine ⟨Expr.chainLength_eq_zero hl, hc, Nat.le_succ_of_le hl, hd, ?_⟩
    rw [Nat.zero_add]
    exact hnest
  | succ n ih =>
    obtain ⟨hlength, hcn, hln, hdn, hnn⟩ := ih (Nat.le_of_succ_le hn)
    -- One more operator is one more node above the chain; its second operand is trivial.
    have hstep : Expr.chained op (n + 1) e = .binary op (Expr.chained op n e) .null := rfl
    rw [hstep]
    refine ⟨?_, ?_, Nat.le_refl _, ?_, ?_⟩
    · rw [Expr.chainLength, if_pos rfl, hlength]
    · have hnull : Expr.null.looseness = 0 := rfl
      simp [Expr.isCanonical, hln, hcn, hnull]
    · simp only [Expr.demand, hlength]
      omega
    · simp only [Expr.nesting, hnn]
      omega

/-- A chain as long as the room allows. -/
theorem Expr.Nested.chained {rank room depth : Nat} {e : Expr} (h : e.Nested rank room depth)
    (op : BinaryOp) (hop : op.level.rank = rank) :
    (Expr.chained op room e).Nested (rank + 1) room (room + depth) := by
  subst hop
  exact (h.chained_of_le (Nat.le_refl room)).2

/-- Around each pair of parentheses, a chain of each precedence. -/
def deepestTree : Nat → Expr
  | 0 => .null
  | room + 1 =>
    [.times, .plus, .less, .equals, .bitAnd, .bitOr].foldl
      (fun e op => Expr.chained op (room + 1) e) (.bounded (deepestTree room))

/-- The deepest expression reaches the bound. -/
theorem deepestTree_nested (room : Nat) :
    (deepestTree room).Nested (Level.bitOr.rank + 1) room (deepestExpr room) := by
  induction room with
  | zero => exact ⟨rfl, Nat.zero_le _, Nat.zero_le _, rfl⟩
  | succ room ih =>
    have hinner : (Expr.bounded (deepestTree room)).Nested 0 (room + 1)
        (deepestOperand (room + 1)) := by
      refine ⟨?_, Nat.zero_le _, Nat.succ_le_succ ih.demand, ?_⟩
      · rw [Expr.isCanonical]
        exact ih.canonical
      · rw [Expr.nesting, ih.nesting, deepestOperand_succ]
    -- Each looser chain has the whole room again, as the one inside has given it back.
    have htimes := hinner.chained .times rfl
    have hplus := htimes.chained .plus rfl
    have hless := hplus.chained .less rfl
    have hequals := hless.chained .equals rfl
    have hand := hequals.chained .bitAnd rfl
    obtain ⟨hc, hl, hd, hn⟩ := hand.chained .bitOr rfl
    refine ⟨hc, hl, hd, hn.trans ?_⟩
    rw [deepestExpr]
    omega

/-- A function that gives the value of `deepestTree room`. -/
def deepestProgram (room : Nat) : Program :=
  ⟨[.function .void "f" [] ⟨[], [.return_ (some (deepestTree room))]⟩]⟩

/-- A program that is one return of the deepest expression reaches the bound. -/
theorem deepestProgram_nested (room : Nat) :
    (deepestProgram room).isCanonical = true ∧ (deepestProgram room).demand ≤ room + 1 ∧
      (deepestProgram room).nesting = deepestExpr room := by
  obtain ⟨hc, -, hd, hn⟩ := deepestTree_nested room
  refine ⟨?_, ?_, ?_⟩
  · simp [deepestProgram, Program.isCanonical, Decl.isCanonical, Block.isCanonical,
      Stmt.areCanonical, Stmt.isCanonical, hc]
  · simpa [deepestProgram, Program.demand, largest, Decl.demand, Block.demand, Stmt.demandAll,
      Stmt.demand, largest?, Expr.fullDemand] using hd
  · simpa [deepestProgram, Program.nesting, Program.depthBy, largest, Decl.depthBy, Block.depthBy,
      Stmt.depthAllBy, Stmt.depthBy, largest?] using hn

end SyntaxOutline
