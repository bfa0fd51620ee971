import SyntaxOutline.Proofs.Viewer.Drawing
import SyntaxOutline.Proofs.Viewer.Highlighting
import SyntaxOutline.Proofs.Viewer.TreeLines

/-!
# Scrolling without bounds

The viewer holds its scroll offsets in 64 bits. Keys move them without regard to the number of
lines, so that they may be far too large until the next draw, and the key for the end just sets the
largest offset there is. `ScrollModel` is what is meant by this: offsets are numbers without a
bound, and the end is the end of whatever is drawn next.

The two agree whenever the viewer is drawn (`Tracks.draw`). Between a key and the next draw an
offset may differ from what is meant, but no cap that fits in 64 bits shows it (`Agrees`). Since
every key is preceded by a draw, the next key starts again from what is meant. Nothing is supposed
about the areas that the panes are drawn in: they may be others at every draw.
-/

namespace SyntaxOutline

open Viewer (Round)

/-! ## What is meant -/

/-- Where a pane is to be scrolled to: a line, or the last page of what is drawn next. -/
inductive Aim where
  | line (n : Nat)
  | lastPage
deriving DecidableEq, Repr

namespace Aim

/-- Moves a line; the last page stays where it is. -/
def move (f : Nat → Nat) : Aim → Aim
  | line n => line (f n)
  | lastPage => lastPage

/-- The offset that a draw with the given cap makes of it. -/
def capped (cap : Nat) : Aim → Nat
  | line n => min n cap
  | lastPage => cap

end Aim

/-- The focus and the scroll offsets of a viewer, without bounds. -/
structure ScrollModel where
  focus : Focus
  source : Aim
  tree : Aim
deriving DecidableEq, Repr

/-- The lines that fit between the borders of a pane, at least one. -/
def visibleHeight (a : Area) : Nat := max (a.height - 2) 1

namespace ScrollModel

/-- Both panes at their start, the outline with the focus. -/
def start : ScrollModel := ⟨.tree, .line 0, .line 0⟩

/-- Changes the offset of the pane that has the focus. -/
def change (m : ScrollModel) (f : Aim → Aim) : ScrollModel :=
  match m.focus with
  | .source => { m with source := f m.source }
  | .tree => { m with tree := f m.tree }

/-- What a key does. -/
def press (m : ScrollModel) : Key → ScrollModel
  | .up => m.change (.move (· - 1))
  | .down => m.change (.move (· + 1))
  | .pageUp => m.change (.move (· - 20))
  | .pageDown => m.change (.move (· + 20))
  | .home => m.change fun _ => .line 0
  | .end_ => m.change fun _ => .lastPage
  | .tab | .backTab => { m with focus := m.focus.other }
  | .escape | .character _ | .other => m

variable (sourceTotal treeTotal : Nat)

/-- What a draw does: both offsets are capped so that the last page stays full. -/
def draw (m : ScrollModel) (f : Frame) : ScrollModel :=
  { m with
    source := .line (m.source.capped (sourceTotal - visibleHeight f.source))
    tree := .line (m.tree.capped (treeTotal - visibleHeight f.tree)) }

/-- What a round does. -/
def round (m : ScrollModel) (r : Round) : ScrollModel :=
  let m := m.draw sourceTotal treeTotal r.frame
  match r.key? with
  | some key => m.press key
  | none => m

/-- What rounds do, one after the other. -/
def run (m : ScrollModel) (rounds : List Round) : ScrollModel :=
  rounds.foldl (round sourceTotal treeTotal) m

end ScrollModel

/-! ## What the viewer does -/

/-- An offset is as good as an aim: no draw whose cap fits in 64 bits tells them apart. -/
def Agrees (offset : Nat) (aim : Aim) : Prop :=
  ∀ cap, cap ≤ Scroll.maxOffset → min offset cap = aim.capped cap

namespace Agrees

theorem line (n : Nat) : Agrees n (.line n) := fun _ _ => rfl

theorem up (k n : Nat) : Agrees (Scroll.up k n) (.line (n - k)) := line (n - k)

/-- A line that is past the largest number is past every page too. -/
theorem down (k n : Nat) : Agrees (Scroll.down k n) (.line (n + k)) := by
  intro cap hcap
  show min (min (n + k) Scroll.maxOffset) cap = min (n + k) cap
  omega

/-- The largest number stands for the last page, since no draw has a larger cap. -/
theorem lastPage : Agrees Scroll.maxOffset .lastPage := by
  intro cap hcap
  exact Nat.min_eq_right hcap

end Agrees

namespace Viewer

/-- A viewer of the given lines that the next draw will show to be where the model is. -/
structure Tracks (source : String) (tree : List String) (v : Viewer) (m : ScrollModel) : Prop where
  source_eq : v.source = source
  tree_eq : v.tree = tree
  focus_eq : v.focus = m.focus
  source_agrees : Agrees v.sourceScroll m.source
  tree_agrees : Agrees v.treeScroll m.tree

/-- A viewer of the given lines that is where the model is. -/
structure Shows (source : String) (tree : List String) (v : Viewer) (m : ScrollModel) : Prop
    extends Tracks source tree v m where
  source_line : m.source = .line v.sourceScroll
  tree_line : m.tree = .line v.treeScroll

section Step

variable {source : String} {tree : List String} {v : Viewer} {m : ScrollModel}

/-- With the focus on the source its offset changes. -/
theorem scroll_of_source (h : v.focus = .source) (f : Nat → Nat) :
    v.scroll f = { v with sourceScroll := f v.sourceScroll } := by
  unfold scroll
  split
  · rfl
  · next htree => cases h.symm.trans htree

/-- With the focus on the outline its offset changes. -/
theorem scroll_of_tree (h : v.focus = .tree) (f : Nat → Nat) :
    v.scroll f = { v with treeScroll := f v.treeScroll } := by
  unfold scroll
  split
  · next hsource => cases h.symm.trans hsource
  · rfl

/-- A key that changes the offset of the pane that has the focus. -/
theorem Shows.scroll (h : Shows source tree v m) {f : Nat → Nat} {g : Aim → Aim}
    (hfg : ∀ n, Agrees (f n) (g (.line n))) : Tracks source tree (v.scroll f) (m.change g) := by
  unfold ScrollModel.change
  split
  · next hm =>
    rw [scroll_of_source (h.focus_eq.trans hm)]
    refine ⟨h.source_eq, h.tree_eq, h.focus_eq, ?_, h.tree_agrees⟩
    rw [h.source_line]
    exact hfg v.sourceScroll
  · next hm =>
    rw [scroll_of_tree (h.focus_eq.trans hm)]
    refine ⟨h.source_eq, h.tree_eq, h.focus_eq, h.source_agrees, ?_⟩
    rw [h.tree_line]
    exact hfg v.treeScroll

/-- A key that comes right behind a draw. -/
theorem Shows.press (h : Shows source tree v m) (key : Key) :
    Tracks source tree (v.press key) (m.press key) := by
  have hfocus : Tracks source tree { v with focus := v.focus.other }
      { m with focus := m.focus.other } :=
    ⟨h.source_eq, h.tree_eq, congrArg Focus.other h.focus_eq, h.source_agrees, h.tree_agrees⟩
  have hquit : Tracks source tree { v with hasQuit := true } m :=
    ⟨h.source_eq, h.tree_eq, h.focus_eq, h.source_agrees, h.tree_agrees⟩
  -- Right behind a draw the offset is a line, so up and down move from what was seen.
  cases key with
  | up => exact h.scroll (Agrees.up 1)
  | down => exact h.scroll (Agrees.down 1)
  | pageUp => exact h.scroll (Agrees.up 20)
  | pageDown => exact h.scroll (Agrees.down 20)
  | home => exact h.scroll (f := fun _ => 0) (g := fun _ => .line 0) fun _ => Agrees.line 0
  | end_ =>
    exact h.scroll (f := fun _ => Scroll.maxOffset) (g := fun _ => .lastPage)
      fun _ => Agrees.lastPage
  | tab => exact hfocus
  | backTab => exact hfocus
  | escape => exact hquit
  | character c =>
    unfold Viewer.press
    dsimp only
    split
    · exact hquit
    · exact h.toTracks
  | other => exact h.toTracks

/-- A draw caps both offsets. -/
theorem drawIn_snd (v : Viewer) (f : Frame) :
    (v.drawIn f).2 = { v with
      sourceScroll := min v.sourceScroll ((Text.lines v.source).length - visibleHeight f.source)
      treeScroll := min v.treeScroll (v.tree.length - visibleHeight f.tree) } := rfl

/-- A draw brings a viewer to where the model is. -/
theorem Tracks.draw (h : Tracks source tree v m)
    (hsource : (Text.lines source).length ≤ Scroll.maxOffset)
    (htree : tree.length ≤ Scroll.maxOffset) (f : Frame) :
    Shows source tree (v.drawIn f).2 (m.draw (Text.lines source).length tree.length f) := by
  have hleft := h.source_agrees ((Text.lines source).length - visibleHeight f.source) (by omega)
  have hright := h.tree_agrees (tree.length - visibleHeight f.tree) (by omega)
  have hdraw : m.draw (Text.lines source).length tree.length f =
      { m with
        source := .line (min v.sourceScroll
          ((Text.lines source).length - visibleHeight f.source))
        tree := .line (min v.treeScroll (tree.length - visibleHeight f.tree)) } := by
    rw [hleft, hright]
    rfl
  rw [v.drawIn_snd, hdraw, h.source_eq, h.tree_eq]
  exact ⟨⟨rfl, rfl, h.focus_eq, .line _, .line _⟩, rfl, rfl⟩

/-- One round of the viewer is one round of the model. -/
theorem Tracks.round (h : Tracks source tree v m)
    (hsource : (Text.lines source).length ≤ Scroll.maxOffset)
    (htree : tree.length ≤ Scroll.maxOffset) (r : Round) :
    Tracks source tree (v.round r) (m.round (Text.lines source).length tree.length r) := by
  have hdrawn := h.draw hsource htree r.frame
  unfold Viewer.round ScrollModel.round
  cases r.key? with
  | none => exact hdrawn.toTracks
  | some key => exact hdrawn.press key

/-- So is a run, as long as no key makes the viewer quit. -/
theorem Tracks.run (h : Tracks source tree v m)
    (hsource : (Text.lines source).length ≤ Scroll.maxOffset)
    (htree : tree.length ≤ Scroll.maxOffset) (rounds : List Round)
    (hquit : (v.run rounds).hasQuit = false) :
    Tracks source tree (v.run rounds) (m.run (Text.lines source).length tree.length rounds) := by
  induction rounds generalizing v m with
  | nil => exact h
  | cons r rounds ih =>
    rw [Viewer.run] at hquit ⊢
    cases hv : v.hasQuit with
    | true =>
      rw [hv, if_pos rfl] at hquit
      cases hv.symm.trans hquit
    | false =>
      rw [hv, if_neg (by simp)] at hquit
      rw [if_neg (by simp)]
      exact ih (h.round hsource htree r) hquit

/-! ## What does not change -/

end Step

/-! ## What is laid out -/

end Viewer

namespace Pane

end Pane

/-! ## What is to be seen -/

namespace Frame

end Frame

namespace Viewer

end Viewer

end SyntaxOutline
