import SyntaxOutline.Outline.Node

/-!
# Outlines as trees

An outline is a tree written line by line: a node first, then its parts one level deeper. The type
of trees tells a header that names a node, and so has a part under it, from a header that stands
above the elements of a list, which may have none.

`OutlineTree.nodes` lists the nodes of a tree in the order of their lines, each with its depth. What
comes behind a node is told by its parts alone (`Step`): the first part, one level deeper, or, if
there is none, nothing that is deeper. `steps_nodes` says so of every node of a tree, by induction
on its parts.
-/

namespace SyntaxOutline

/-- The tree of an outline. -/
inductive OutlineTree where
  | token (token : Token)
  | type (type : TypeName)
  /-- A header and the parts of the node that it names. -/
  | node (header : Header) (first : OutlineTree) (others : List OutlineTree)
  /-- A header and the elements of a list. -/
  | list (header : Header) (elements : List OutlineTree)

namespace OutlineTree

/-- What the line of a tree's root shows. -/
def entry : OutlineTree → Entry
  | token t => .token t
  | type t => .type t
  | node h _ _ => .header h
  | list h _ => .header h

/-- What stands one level below a tree's root. -/
def parts : OutlineTree → List OutlineTree
  | token _ => []
  | type _ => []
  | node _ first others => first :: others
  | list _ elements => elements

/-- Whether a tree is the header of a list without elements. -/
def isEmptyList : OutlineTree → Bool
  | list _ [] => true
  | _ => false

mutual
/-- The nodes of a tree with their depths, the root at depth `d`, each before its parts. -/
def nodes (d : Nat) : OutlineTree → List (Nat × OutlineTree)
  | token t => [(d, token t)]
  | type t => [(d, type t)]
  | node h first others =>
    (d, node h first others) :: (first.nodes (d + 1) ++ nodesAll (d + 1) others)
  | list h elements => (d, list h elements) :: nodesAll (d + 1) elements

/-- The nodes of trees that stand side by side. -/
def nodesAll (d : Nat) : List OutlineTree → List (Nat × OutlineTree)
  | [] => []
  | t :: ts => t.nodes d ++ nodesAll d ts
end

/-- A node is followed by its parts, one level deeper. -/
theorem nodes_eq (d : Nat) (t : OutlineTree) : t.nodes d = (d, t) :: nodesAll (d + 1) t.parts := by
  cases t <;> rfl

mutual
/-- Induction along the parts of a tree. -/
theorem parts_induction {motive : OutlineTree → Prop}
    (tree : ∀ t, (∀ u ∈ t.parts, motive u) → motive t) : ∀ t, motive t
  | token t => tree (token t) nofun
  | type t => tree (type t) nofun
  | node h first others =>
    tree (node h first others) (List.forall_mem_cons.mpr
      ⟨parts_induction tree first, parts_induction_all tree others⟩)
  | list h elements => tree (list h elements) (parts_induction_all tree elements)

theorem parts_induction_all {motive : OutlineTree → Prop}
    (tree : ∀ t, (∀ u ∈ t.parts, motive u) → motive t) : ∀ ts : List OutlineTree, ∀ t ∈ ts, motive t
  | [] => nofun
  | t :: ts => List.forall_mem_cons.mpr ⟨parts_induction tree t, parts_induction_all tree ts⟩
end

/-- Only tokens, types and lists without elements have no parts. -/
theorem parts_eq_nil_iff (t : OutlineTree) :
    t.parts = [] ↔ (∀ h, t.entry ≠ .header h) ∨ t.isEmptyList = true := by
  cases t with
  | token t => simp [parts, entry]
  | type t => simp [parts, entry]
  | node h first others => simp [parts, entry, isEmptyList]
  | list h elements => cases elements <;> simp [parts, entry, isEmptyList]

/-! ## Depths -/

/-- Trees that start deeper are deeper throughout, by the same number of levels. -/
theorem nodesAll_add {ts : List OutlineTree} {k : Nat}
    (h : ∀ t ∈ ts, ∀ d, t.nodes (k + d) = (t.nodes d).map fun n => (k + n.1, n.2)) (d : Nat) :
    nodesAll (k + d) ts = (nodesAll d ts).map fun n => (k + n.1, n.2) := by
  induction ts with
  | nil => rfl
  | cons t ts ih =>
    rw [List.forall_mem_cons] at h
    rw [nodesAll, nodesAll, List.map_append, h.1, ih h.2]

/-- A tree further in has the same nodes, each as much further in. -/
theorem nodes_add (k d : Nat) (t : OutlineTree) :
    t.nodes (k + d) = (t.nodes d).map fun n => (k + n.1, n.2) := by
  induction t using parts_induction generalizing d with
  | tree t ih =>
    rw [nodes_eq, nodes_eq, List.map_cons, Nat.add_assoc, nodesAll_add ih]

/-- No node stands further out than its tree. -/
theorem le_of_mem_nodesAll {ts : List OutlineTree} {d : Nat} : ∀ n ∈ nodesAll d ts, d ≤ n.1 := by
  rw [← Nat.add_zero d, nodesAll_add fun t _ e => nodes_add d e t, List.forall_mem_map]
  exact fun n _ => Nat.le_add_right ..

/-! ## What follows a node -/

/-- What may come behind a node: its first part, one level deeper; or, if it has none, nothing that
is deeper than it. -/
def Step (n : Nat × OutlineTree) (next? : Option (Nat × OutlineTree)) : Prop :=
  (n.2.parts = [] → ∀ m ∈ next?, m.1 ≤ n.1) ∧ (n.2.parts ≠ [] → ∃ u, next? = some (n.1 + 1, u))

/-- Each node of a list is followed by what may come behind it. -/
def Steps : List (Nat × OutlineTree) → Prop
  | [] => True
  | n :: ns => Step n ns.head? ∧ Steps ns

/-- Nothing deeper than `d` comes next. -/
def NoDeeper (d : Nat) (ns : List (Nat × OutlineTree)) : Prop := ∀ m ∈ ns.head?, m.1 ≤ d

/-- With trees of that depth in front, what comes first is still not deeper. -/
theorem NoDeeper.nodesAll_append {d : Nat} {rest : List (Nat × OutlineTree)} (h : NoDeeper d rest)
    (ts : List OutlineTree) : NoDeeper d (nodesAll d ts ++ rest) := by
  cases ts with
  | nil => exact h
  | cons t ts =>
    rw [nodesAll, nodes_eq]
    rintro m ⟨⟩
    exact Nat.le_refl d

/-- What is not further in than a line is not further in than one below it. -/
theorem NoDeeper.succ {d : Nat} {ns : List (Nat × OutlineTree)} (h : NoDeeper d ns) :
    NoDeeper (d + 1) ns :=
  fun m hm => Nat.le_succ_of_le (h m hm)

/-- Trees one after the other are in steps if each tree is, whatever follows it. -/
theorem steps_nodesAll {d : Nat} {ts : List OutlineTree} {rest : List (Nat × OutlineTree)}
    (hts : ∀ t ∈ ts, ∀ d rest, Steps rest → NoDeeper d rest → Steps (t.nodes d ++ rest))
    (hrest : Steps rest) (hhead : NoDeeper d rest) : Steps (nodesAll d ts ++ rest) := by
  induction ts with
  | nil => exact hrest
  | cons t ts ih =>
    rw [List.forall_mem_cons] at hts
    rw [nodesAll, List.append_assoc]
    exact hts.1 d _ (ih hts.2) (hhead.nodesAll_append ts)

/-- In front of whatever is not deeper than its root, a tree is written step by step. -/
theorem steps_nodes_append (t : OutlineTree) (d : Nat) {rest : List (Nat × OutlineTree)}
    (hrest : Steps rest) (hhead : NoDeeper d rest) : Steps (t.nodes d ++ rest) := by
  induction t using parts_induction generalizing d rest with
  | tree t ih =>
    rw [nodes_eq, List.cons_append]
    refine ⟨⟨fun hparts => ?_, fun hparts => ?_⟩, ?_⟩
    · rw [hparts]
      exact hhead
    · obtain ⟨first, others, hcons⟩ := List.exists_cons_of_ne_nil hparts
      rw [hcons, nodesAll, nodes_eq]
      exact ⟨first, rfl⟩
    · exact steps_nodesAll (fun u hu d rest => @ih u hu d rest) hrest hhead.succ

/-- A tree is in steps. -/
theorem steps_nodes (t : OutlineTree) (d : Nat) : Steps (t.nodes d) := by
  have h := @steps_nodes_append t d [] trivial nofun
  rwa [List.append_nil] at h

/-- In steps each node is followed by what may follow it. -/
theorem Steps.get? {ns : List (Nat × OutlineTree)} (h : Steps ns) {i : Nat} {n : Nat × OutlineTree}
    (hi : ns[i]? = some n) : Step n ns[i + 1]? := by
  induction ns generalizing i with
  | nil => cases hi
  | cons m ns ih =>
    cases i with
    | zero =>
      cases hi
      rw [List.getElem?_cons_succ, ← List.head?_eq_getElem?]
      exact h.1
    | succ i => exact ih h.2 hi

/-- From one line to the next an outline gets deeper by at most one level. -/
theorem Step.depth_le {n : Nat × OutlineTree} {m : Nat × OutlineTree} (h : Step n (some m)) :
    m.1 ≤ n.1 + 1 := by
  by_cases hparts : n.2.parts = []
  · exact Nat.le_succ_of_le (h.1 hparts m rfl)
  · obtain ⟨u, hu⟩ := h.2 hparts
    cases hu
    exact Nat.le_refl _

end OutlineTree

end SyntaxOutline
