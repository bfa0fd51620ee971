import SyntaxOutline.Proofs.Outline.LineText
import SyntaxOutline.Proofs.Outline.Plan
import SyntaxOutline.Proofs.Outline.Tree

/-!
# The tree of a program

Following the plan of a node into its parts gives the trees of the node, said without depths
(`NodeKind.forest`): one tree for every kind of node but a block, which has several that stand side
by side among the parts of what holds it. The outline of a node is its trees written line by line
(`outline_eq_forest`), at whatever depth it starts. So what holds of every tree holds of every
outline: main result `Program.outline_shape`, the lines that are printed and how their depths go on.
-/

namespace SyntaxOutline

namespace OutlineTree

/-- The items of trees that stand side by side. -/
def itemsAll (d : Nat) (ts : List OutlineTree) : List Item :=
  (nodesAll d ts).map fun n => ⟨n.1, n.2.entry⟩

variable (d : Nat)

@[simp] theorem itemsAll_nil : itemsAll d [] = [] := rfl

/-- Side by side is one after the other. -/
theorem itemsAll_cons (t : OutlineTree) (ts : List OutlineTree) :
    itemsAll d (t :: ts) = (t.nodes d).map (fun n => ⟨n.1, n.2.entry⟩) ++ itemsAll d ts :=
  List.map_append

/-- Trees one after the other stand for their lines one after the other. -/
@[simp] theorem itemsAll_append (ts us : List OutlineTree) :
    itemsAll d (ts ++ us) = itemsAll d ts ++ itemsAll d us := by
  induction ts with
  | nil => rfl
  | cons t ts ih => rw [List.cons_append, itemsAll_cons, itemsAll_cons, ih, List.append_assoc]

/-- What stands under a header is one level deeper. -/
theorem itemsAll_node (h : Header) (first : OutlineTree) (others : List OutlineTree) :
    itemsAll d [node h first others] = .header d h :: itemsAll (d + 1) (first :: others) :=
  (itemsAll_cons d _ []).trans (List.append_nil _)

/-- The tree of a list stands for its header and its elements, one step further in. -/
theorem itemsAll_list (h : Header) (elements : List OutlineTree) :
    itemsAll d [list h elements] = .header d h :: itemsAll (d + 1) elements :=
  (itemsAll_cons d _ []).trans (List.append_nil _)

end OutlineTree

/-! ## Trees of the nodes of a program -/

namespace OutlinePlan

mutual
/-- The trees of a plan, at least one, where `f` gives the trees of its parts. -/
def grow (deeper : Nat) : (p : OutlinePlan) →
    (∀ e k (t : NodeKind.Tree k), .part e k t ∈ p.tasks deeper → OutlineTree × List OutlineTree) →
    OutlineTree × List OutlineTree
  | token t, _ => (.token t, [])
  | type t, _ => (.type t, [])
  | node h first others, f =>
    let under := first.grow (deeper + 1) fun e k t ht =>
      f e k t (List.mem_cons_of_mem _ (List.mem_append_left _ ht))
    let more := growAll (deeper + 1) others fun e k t ht =>
      f e k t (List.mem_cons_of_mem _ (List.mem_append_right _ ht))
    (.node h under.1 (under.2 ++ more), [])
  | list h elements, f =>
    (.list h (growAll (deeper + 1) elements fun e k t ht => f e k t (List.mem_cons_of_mem _ ht)), [])
  | part k t, f => f deeper k t (List.mem_singleton_self _)

/-- The trees of plans that stand side by side. -/
def growAll (deeper : Nat) : (ps : List OutlinePlan) →
    (∀ e k (t : NodeKind.Tree k), .part e k t ∈ tasksAll deeper ps →
      OutlineTree × List OutlineTree) →
    List OutlineTree
  | [], _ => []
  | p :: ps, f =>
    let here := p.grow deeper fun e k t ht => f e k t (List.mem_append_left _ ht)
    here.1 :: here.2 ++ growAll deeper ps fun e k t ht => f e k t (List.mem_append_right _ ht)
end

end OutlinePlan

namespace NodeKind

open OutlinePlan OutlineTree

/-- The trees of a node, at least one: those of its plan, with those of its parts in their
places. -/
def forest (k : NodeKind) (t : k.Tree) : OutlineTree × List OutlineTree :=
  let here := (k.plan t).1.grow 0 fun _ k' t' _ => forest k' t'
  (here.1, here.2 ++ growAll 0 (k.plan t).2 fun _ k' t' _ => forest k' t')
termination_by k.weight t
decreasing_by
  · next h => exact (descend_plan k t _ (List.mem_append_left _ h)).1
  · next h => exact (descend_plan k t _ (List.mem_append_right _ h)).1

end NodeKind

/-! ## An outline is its trees, line by line -/

namespace OutlinePlan

open OutlineTree

mutual
/-- The trees of a plan are what it writes, if those of the parts are what the parts write. -/
theorem items_grow (d deeper : Nat) : ∀ (p : OutlinePlan)
    (f : ∀ e k (t : NodeKind.Tree k), .part e k t ∈ p.tasks deeper → OutlineTree × List OutlineTree)
    (_ : ∀ e k t ht d, k.outline d t = itemsAll d ((f e k t ht).1 :: (f e k t ht).2)),
    (p.tasks deeper).flatMap (OutlineTask.items d)
      = itemsAll (d + deeper) ((p.grow deeper f).1 :: (p.grow deeper f).2)
  | token t, f, hf => rfl
  | type t, f, hf => rfl
  | node h first others, f, hf => by
    have hfirst := items_grow d (deeper + 1) first _ fun e k t ht =>
      hf e k t (List.mem_cons_of_mem _ (List.mem_append_left _ ht))
    have hothers := items_growAll d (deeper + 1) others _ fun e k t ht =>
      hf e k t (List.mem_cons_of_mem _ (List.mem_append_right _ ht))
    rw [tasks, List.cons_append, List.flatMap_cons, List.flatMap_append, hfirst, ← items, hothers,
      ← itemsAll_append]
    exact (itemsAll_node _ h _ _).symm
  | list h elements, f, hf => by
    have helements := items_growAll d (deeper + 1) elements _ fun e k t ht =>
      hf e k t (List.mem_cons_of_mem _ ht)
    rw [tasks, List.flatMap_cons, ← items, helements]
    exact (itemsAll_list _ h _).symm
  | part k t, f, hf => by
    rw [tasks, List.flatMap_singleton]
    -- The part has trees of its own, which stand as deep as it does.
    exact hf deeper k t _ (d + deeper)

theorem items_growAll (d deeper : Nat) : ∀ (ps : List OutlinePlan)
    (f : ∀ e k (t : NodeKind.Tree k), .part e k t ∈ tasksAll deeper ps →
      OutlineTree × List OutlineTree)
    (_ : ∀ e k t ht d, k.outline d t = itemsAll d ((f e k t ht).1 :: (f e k t ht).2)),
    items d deeper ps = itemsAll (d + deeper) (growAll deeper ps f)
  | [], f, hf => rfl
  | p :: ps, f, hf => by
    have hhere := items_grow d deeper p _ fun e k t ht => hf e k t (List.mem_append_left _ ht)
    have hmore := items_growAll d deeper ps _ fun e k t ht =>
      hf e k t (List.mem_append_right _ ht)
    rw [items_cons, hhere, hmore, ← itemsAll_append]
    rfl
end

end OutlinePlan

namespace NodeKind

open OutlinePlan OutlineTree

/-- The outline of a node is its trees, line by line. -/
theorem outline_eq_forest (d : Nat) (k : NodeKind) (t : k.Tree) :
    k.outline d t = itemsAll d ((k.forest t).1 :: (k.forest t).2) := by
  have hfirst := items_grow d 0 (k.plan t).1 _ fun e k' t' _ d => outline_eq_forest d k' t'
  have hothers := items_growAll d 0 (k.plan t).2 _ fun e k' t' _ d => outline_eq_forest d k' t'
  rw [outline_eq_plan, items_cons, hfirst, hothers, ← itemsAll_append, forest]
  rfl
termination_by k.weight t
decreasing_by
  · next h => exact (descend_plan k t _ (List.mem_append_left _ h)).1
  · next h => exact (descend_plan k t _ (List.mem_append_right _ h)).1

end NodeKind

/-- The tree of a program. -/
def Program.tree (p : Program) : OutlineTree := (NodeKind.program.forest p).1

/-! ## The lines of an outline -/

open OutlineTree

/-- What the line of an entry says behind its indentation. -/
def Entry.text (e : Entry) : String := (Line.mk 0 e.label e.value?).body

/-- The nodes of a program with their depths below the first line, in the order of their lines. -/
def Program.nodes (p : Program) : List (Nat × OutlineTree) := p.tree.nodes 0

/-- The same nodes are written wherever the outline starts, all deeper by the same number of
levels. -/
theorem Program.outline_eq_nodes (d : Nat) (p : Program) :
    p.outline d = p.nodes.map fun n => ⟨d + n.1, n.2.entry⟩ := by
  have halone : (NodeKind.program.forest p).2 = [] := by
    rw [NodeKind.forest]
    rfl
  have hitems := NodeKind.outline_eq_forest d .program p
  rw [halone, itemsAll_cons, itemsAll_nil, List.append_nil] at hitems
  refine hitems.trans ?_
  rw [nodes, tree]
  nth_rewrite 1 [← Nat.add_zero d]
  rw [nodes_add, List.map_map]
  rfl

/-- The shape of an outline. A program has a list of nodes with depths, and its outline at any depth
and with any unit of indentation is written line by line from them. Only the first node is not
indented. A header is followed by a node exactly one level deeper, unless it is that of an empty
list; behind that, a token or a type nothing is deeper. So the depth never rises by more than 1. -/
theorem Program.outline_shape (p : Program) :
    (∀ (d : Nat) (printer : Printer Sink), printer.sink.limit? = none →
      ∃ after, printer.printItems (p.outline d) = (none, after) ∧
        after.sink.held = printer.sink.held ++ (String.join (p.nodes.map fun n =>
          String.join (List.replicate (d + n.1) printer.unit) ++ n.2.entry.text ++ "\n")).toUTF8 ∧
        after.lines = printer.lines + p.nodes.length) ∧
    (∃ others, p.nodes = (0, p.tree) :: others ∧ ∀ n ∈ others, 0 < n.1) ∧
    (∀ i depth t, p.nodes[i]? = some (depth, t) →
      (∀ h, t.entry = .header h → t.isEmptyList = false →
        ∃ u, p.nodes[i + 1]? = some (depth + 1, u)) ∧
      ((∀ h, t.entry ≠ .header h) ∨ t.isEmptyList = true →
        ∀ depth' u, p.nodes[i + 1]? = some (depth', u) → depth' ≤ depth)) ∧
    ∀ i n m, p.nodes[i]? = some n → p.nodes[i + 1]? = some m → m.1 ≤ n.1 + 1 := by
  -- All that is said of neighbouring lines is read off the steps of the tree.
  have hsteps : Steps p.nodes := steps_nodes p.tree 0
  refine ⟨fun d printer hlimit => ?_, ⟨_, nodes_eq 0 p.tree, le_of_mem_nodesAll⟩, ?_, ?_⟩
  · have hheld := printer.held_printAll ((p.outline d).map Item.line) hlimit
    have hwrite := printer.printAll_eq_write ((p.outline d).map Item.line)
    rw [Sink.write_unlimited hlimit, Prod.mk.injEq] at hwrite
    have hfault := hwrite.1
    have hlines := Printer.lines_printAll_of_none hfault
    refine ⟨_, Prod.ext hfault rfl, ?_, ?_⟩
    · rw [Printer.printItems, hheld, outline_eq_nodes, List.map_map, List.map_map]
      rfl
    · rw [Printer.printItems, hlines, outline_eq_nodes, List.length_map, List.length_map]
  · intro i depth t hi
    have hstep := hsteps.get? hi
    constructor
    · intro h hentry hlist
      refine hstep.2 fun hparts => ?_
      rcases (parts_eq_nil_iff t).mp hparts with hleaf | hempty
      · exact hleaf h hentry
      · rw [hlist] at hempty
        cases hempty
    · intro hbare depth' u hnext
      exact hstep.1 ((parts_eq_nil_iff t).mpr hbare) (depth', u) hnext
  · intro i n m hi hnext
    have hstep := hsteps.get? hi
    rw [hnext] at hstep
    exact hstep.depth_le

/-- A function without parameters and local variables. -/
def negating : Program :=
  ⟨[.function .void "f" [] ⟨[], [.assign ⟨.var "x", .unary .negate (.int ⟨"1"⟩)⟩]⟩]⟩

/-- A list without elements in the middle of an outline: the line behind it is not further in. -/
theorem Program.outline_shape_negating :
    (∃ after, (Printer.new "\t" Sink.unlimited).printItems (negating.outline 1) = (none, after) ∧
      after.lines = 20) ∧
    negating.nodes[10]? = some (4, .list .varDeclList []) ∧
    (∀ depth u, negating.nodes[11]? = some (depth, u) → depth ≤ 4) ∧
    (∃ u, negating.nodes[16]? = some (7, u)) ∧
    ∀ i n m, negating.nodes[i]? = some n → negating.nodes[i + 1]? = some m → m.1 ≤ n.1 + 1 := by
  obtain ⟨hprint, -, hfollows, hdepth⟩ := Program.outline_shape negating
  obtain ⟨after, hafter, -, hlines⟩ := hprint 1 (.new "\t" Sink.unlimited) rfl
  have hlist : negating.nodes[10]? = some (4, .list .varDeclList []) := by
    with_unfolding_all rfl
  have hnegation : negating.nodes[15]? =
      some (6, .node (.unary .negate) (.token (.mark .minus)) [.token (.intLit "1")]) := by
    with_unfolding_all rfl
  refine ⟨⟨after, hafter, hlines.trans ?_⟩, hlist, (hfollows 10 4 _ hlist).2 (.inr rfl),
    (hfollows 15 6 _ hnegation).1 _ rfl rfl, hdepth⟩
  with_unfolding_all rfl

end SyntaxOutline
