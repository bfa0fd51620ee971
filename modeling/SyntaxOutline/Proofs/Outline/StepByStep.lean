import SyntaxOutline.Outline.Printer
import SyntaxOutline.Proofs.Outline.Plan

/-!
# Printing a node step by step

A printer need not list an outline before it prints it. It can go through the tasks of a node, print
each line as it comes to it, and go into each part, until something is refused
(`NodeKind.print`). That comes to the same: what is printed, what is refused and what is counted are
those of the listed outline (`print_eq_printItems`).
-/

namespace SyntaxOutline

namespace Printer

variable {σ : Type}

/-- Does things in order, until one is refused. -/
def each {α : Type} : (as : List α) → (∀ a ∈ as, Printer σ → Option SinkFault × Printer σ) →
    Printer σ → Option SinkFault × Printer σ
  | [], _, p => (none, p)
  | a :: as, f, p =>
    match f a List.mem_cons_self p with
    | (none, p) => each as (fun b hb => f b (List.mem_cons_of_mem a hb)) p
    | (some fault, p) => (some fault, p)

variable [Writer σ]

/-- Printing goes on behind lines that are all taken, and stops at the first that is refused. -/
theorem printItems_append (items more : List Item) (p : Printer σ) :
    p.printItems (items ++ more) =
      match p.printItems items with
      | (none, p) => p.printItems more
      | (some fault, p) => (some fault, p) := by
  induction items generalizing p with
  | nil => rfl
  | cons i items ih =>
    rw [List.cons_append, printItems, List.map_cons, printAll, printItems, List.map_cons, printAll]
    cases p.print i.line with
    | mk fault? p =>
      cases fault? with
      | none => exact ih p
      | some fault => rfl

/-- If each thing is to print some items, doing them in order is to print all of the items. -/
theorem each_eq_printItems {α : Type} {items : α → List Item} (as : List α)
    {f : ∀ a ∈ as, Printer σ → Option SinkFault × Printer σ}
    (h : ∀ a ha p, f a ha p = p.printItems (items a)) (p : Printer σ) :
    each as f p = p.printItems (as.flatMap items) := by
  induction as generalizing p with
  | nil => rfl
  | cons a as ih =>
    rw [each, h, List.flatMap_cons, printItems_append]
    cases p.printItems (items a) with
    | mk fault? p =>
      cases fault? with
      | none => exact ih (fun b hb => h b (List.mem_cons_of_mem a hb)) p
      | some fault => rfl

end Printer

namespace NodeKind

variable {σ : Type} [Writer σ]

/-- Prints a node at a depth, task by task. -/
def print (d : Nat) (k : NodeKind) (t : k.Tree) (p : Printer σ) : Option SinkFault × Printer σ :=
  Printer.each (k.tasks t) (fun task htask p =>
    match task, htask with
    | .line deeper entry, _ => p.print (Item.mk (d + deeper) entry).line
    | .part deeper k' t', _ => k'.print (d + deeper) t' p) p
termination_by k.weight t
decreasing_by
  rename_i htask
  exact (descend_plan k t _ htask).1

/-- To print a node task by task is to print its outline. -/
theorem print_eq_printItems (d : Nat) (k : NodeKind) (t : k.Tree) (p : Printer σ) :
    k.print d t p = p.printItems (k.outline d t) := by
  rw [print, outline_eq_tasks]
  refine Printer.each_eq_printItems _ (fun task htask p => ?_) p
  cases task with
  | line deeper entry =>
    show p.print _ = p.printItems [_]
    rw [Printer.printItems, List.map_singleton, Printer.printAll]
    cases p.print (Item.mk (d + deeper) entry).line with
    | mk fault? p => cases fault? <;> rfl
  | part deeper k' t' =>
    -- A part is less than the node, so the same is known of it.
    exact print_eq_printItems (d + deeper) k' t' p
termination_by k.weight t
decreasing_by exact (descend_plan k t _ htask).1

end NodeKind

end SyntaxOutline
