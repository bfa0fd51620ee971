import SyntaxOutline.Proofs.Outline.Plan

/-!
# How many outlines are open at once

To list the outline of a node is to list lines and the outlines of some of its parts, in an order
that `NodeKind.tasks` gives as data. `NodeKind.outlineWithin` goes through the tasks with a stack of
so many frames, one for each node whose outline has been started and not finished, and gives up
where another frame would be needed. Main result: a stack suffices if it has three frames for each
depth that the outline reaches (`outlineWithin_eq`). The parts of a node may start at the depth of
the node itself, but then they are of a lower rank, and there are three ranks.
-/

namespace SyntaxOutline

/-- No item is deeper than `n`. -/
def DepthAtMost (n : Nat) (items : List Item) : Prop := ∀ i ∈ items, i.depth ≤ n

namespace NodeKind

open OutlineTask

/-! ## A stack of so many frames -/

/-- The outline of a node, listed with at most `frames` outlines open at once. -/
def outlineWithin : Nat → Nat → (k : NodeKind) → k.Tree → Option (List Item)
  | 0, _, _, _ => none
  | frames + 1, d, k, t =>
    List.flatten <$> (k.tasks t).mapM fun task : OutlineTask =>
      match task with
      | line deeper entry => some [Item.mk (d + deeper) entry]
      | part deeper k t => outlineWithin frames (d + deeper) k t

/-- The outline of a node starts at the depth of the node. -/
theorem exists_depth_eq (d : Nat) (k : NodeKind) (t : k.Tree) :
    ∃ i ∈ k.outline d t, i.depth = d := by
  cases k with
  | formalsList | decl | stmt | place => cases t <;> exact ⟨_, List.mem_cons_self, rfl⟩
  | block =>
    obtain ⟨decls, stmts⟩ := t
    exact ⟨_, List.mem_cons_self, rfl⟩
  | expr =>
    cases t with
    | place p => cases p <;> exact ⟨_, List.mem_cons_self, rfl⟩
    | _ => exact ⟨_, List.mem_cons_self, rfl⟩
  | _ => exact ⟨_, List.mem_cons_self, rfl⟩

/-- What gives a value for each member of a list gives the list of the values. -/
theorem mapM_eq_some {α β : Type} {f : α → Option β} {g : α → β} {as : List α}
    (h : ∀ a ∈ as, f a = some (g a)) : as.mapM f = some (as.map g) := by
  induction as with
  | nil => rfl
  | cons a as ih =>
    rw [List.forall_mem_cons] at h
    rw [List.mapM_cons, h.1, ih h.2]
    rfl

/-- Three frames for each depth are enough. -/
theorem outlineWithin_eq {frames n d : Nat} {k : NodeKind} {t : k.Tree}
    (hdepth : DepthAtMost n (k.outline d t)) (hframes : 3 * (n - d) + k.rank < frames) :
    outlineWithin frames d k t = some (k.outline d t) := by
  induction frames generalizing d k t with
  | zero => omega
  | succ frames ih =>
    rw [outline_eq_tasks] at hdepth ⊢
    have hitems : ∀ task ∈ k.tasks t, (match task with
        | line deeper entry => some [Item.mk (d + deeper) entry]
        | part deeper k t => outlineWithin frames (d + deeper) k t) = some (task.items d) := by
      intro task htask
      cases task with
      | line deeper entry => rfl
      | part deeper k' t' =>
        have hrank := (descend_plan k t _ htask).2
        have hpart : DepthAtMost n (k'.outline (d + deeper) t') := by
          intro i hi
          exact hdepth i (List.mem_flatMap.mpr ⟨_, htask, hi⟩)
        -- The part has a line of its own, so its depth is not beyond `n`.
        obtain ⟨i, hi, hstart⟩ := exists_depth_eq (d + deeper) k' t'
        have hle := hpart i hi
        exact ih hpart (by omega)
    rw [outlineWithin, mapM_eq_some hitems]
    rfl

end NodeKind

end SyntaxOutline
