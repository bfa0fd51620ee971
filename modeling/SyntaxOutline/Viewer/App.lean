import SyntaxOutline.Viewer.Pane

/-!
# The viewer

The viewer shows a source and its outline side by side above a status bar. One of the two panes has
the focus, and keys scroll that one. Drawing the viewer brings both scroll offsets back to their
last full pages. It is drawn before each key, and again whenever something else happens, until a key
makes it quit. Each time it is given a frame to be drawn in, which may have any size and any areas.
-/

namespace SyntaxOutline

/-- The pane that keys go to. -/
inductive Focus where
  | source
  | tree
deriving DecidableEq, Repr

/-- The other pane. -/
def Focus.other : Focus → Focus
  | source => tree
  | tree => source

/-- The keys of a keyboard, as far as the viewer tells them apart. -/
inductive Key where
  | up | down | pageUp | pageDown | home | end_
  | tab | backTab | escape
  | character (c : Char)
  | other
deriving DecidableEq, Repr

/-- The state of the viewer. -/
structure Viewer where
  fileName : String
  source : String
  tree : List String
  focus : Focus
  sourceScroll : Nat
  treeScroll : Nat
  hasQuit : Bool
  status : String
deriving DecidableEq, Repr

/-- What a viewer is given to be drawn in: a screen, and the areas of the source pane, the outline
pane and the status bar. -/
structure Frame where
  screen : Screen
  source : Area
  tree : Area
  status : Area
deriving DecidableEq, Repr

/-- An empty screen, with the two panes side by side above the status bar. -/
def Frame.ofSize (width height : Nat) : Frame :=
  let s := Screen.blank width height
  let leftWidth := (s.width + 1) / 2
  { screen := s
    source := ⟨0, 0, leftWidth, s.height - 1⟩
    tree := ⟨leftWidth, 0, s.width - leftWidth, s.height - 1⟩
    status := ⟨0, s.height - 1, s.width, min s.height 1⟩ }

namespace Viewer

/-- A viewer of a source and the text of its outline. -/
def new (fileName source rendering : String) : Viewer :=
  let tree := Text.lines rendering
  { fileName := fileName
    source := source
    tree := tree
    focus := .tree
    sourceScroll := 0
    treeScroll := 0
    hasQuit := false
    status := s!"{tree.length} tree lines" }

/-- Changes the scroll offset of the pane that has the focus. -/
def scroll (v : Viewer) (f : Nat → Nat) : Viewer :=
  match v.focus with
  | .source => { v with sourceScroll := f v.sourceScroll }
  | .tree => { v with treeScroll := f v.treeScroll }

/-- Does what a key asks for. -/
def press (v : Viewer) : Key → Viewer
  | .character c => if c = 'q' || c = 'Q' then { v with hasQuit := true } else v
  | .escape => { v with hasQuit := true }
  | .tab | .backTab => { v with focus := v.focus.other }
  | .up => v.scroll (Scroll.up 1)
  | .down => v.scroll (Scroll.down 1)
  | .pageUp => v.scroll (Scroll.up Scroll.pageSize)
  | .pageDown => v.scroll (Scroll.down Scroll.pageSize)
  | .home => v.scroll fun _ => 0
  -- The next draw caps it, since only then the height of the pane is known.
  | .end_ => v.scroll fun _ => Scroll.maxOffset
  | .other => v

/-- Draws the viewer in a frame; gives the viewer with the offsets that it was drawn at. -/
def drawIn (v : Viewer) (f : Frame) : Screen × Viewer :=
  let (s, sourceScroll) :=
    Pane.drawSource f.screen f.source v.source (v.focus == .source) v.sourceScroll
  let (s, treeScroll) := Pane.drawTree s f.tree v.tree (v.focus == .tree) v.treeScroll
  -- The status bar comes last, over the panes where it falls on them.
  (Pane.drawStatus s f.status v.fileName v.status,
    { v with sourceScroll := sourceScroll, treeScroll := treeScroll })

/-- Draws the viewer on an empty screen. A viewer that has quit draws nothing. -/
def draw (v : Viewer) (width height : Nat) : Screen × Viewer :=
  let f := Frame.ofSize width height
  if v.hasQuit then (f.screen, v) else v.drawIn f

/-- One round of the viewer's loop: the frame it is drawn in, and the key that comes then, if it is
a key that comes. -/
structure Round where
  frame : Frame
  key? : Option Key
deriving DecidableEq, Repr

/-- Goes through one round. -/
def round (v : Viewer) (r : Round) : Viewer :=
  let (_, v) := v.drawIn r.frame
  match r.key? with
  | some key => v.press key
  | none => v

/-- Goes through rounds, until it quits. -/
def run (v : Viewer) : List Round → Viewer
  | [] => v
  | r :: rs => if v.hasQuit then v else (v.round r).run rs

end Viewer

end SyntaxOutline
