import SyntaxOutline.Outline.Node
import SyntaxOutline.Outline.Sink

/-!
# Printing an outline

A printer writes lines, piece by piece, and counts those that went through whole. Printing the items
of an outline stops at the first line that is refused; the printer itself can go on.

For any writer, printing lines is writing their pieces one after the other
(`printAll_eq_writeEach`). For a sink, `print_eq` says that writing the pieces of a line is writing
the line as a whole.
-/

namespace SyntaxOutline

/-- The texts that a line is put together from, between its indentation and its end. -/
def Line.pieces (l : Line) : List String :=
  match l.value? with
  | none => [l.label]
  | some value => [l.label, " (", value, ")"]

/-- What lines are printed to, the unit of indentation, and the number of lines written. -/
structure Printer (σ : Type) where
  unit : String
  sink : σ
  lines : Nat

namespace Printer

/-- One thing to ask of a printer. -/
inductive Step where
  | print (line : Line)
  | flush
deriving DecidableEq, Repr

variable {σ : Type}

/-- A printer that has written nothing. -/
def new (unit : String) (sink : σ) : Printer σ := ⟨unit, sink, 0⟩

variable [Writer σ]

/-- Writes the pieces of a line: the unit of indentation once for each level, then the texts of the
line, then its end. -/
def offer (p : Printer σ) (l : Line) : Option SinkFault × σ :=
  match Writer.writeTimes p.sink p.unit (if p.unit.isEmpty then 0 else l.depth) with
  | (none, sink) => Writer.writeEach sink (l.pieces ++ ["\n"])
  | (some fault, sink) => (some fault, sink)

/-- Writes one line. -/
def print (p : Printer σ) (l : Line) : Option SinkFault × Printer σ :=
  let (fault?, sink) := p.offer l
  (fault?, { p with sink := sink, lines := if fault?.isNone then p.lines + 1 else p.lines })

/-- Writes lines until one is refused. -/
def printAll (p : Printer σ) : List Line → Option SinkFault × Printer σ
  | [] => (none, p)
  | l :: ls =>
    match p.print l with
    | (none, p) => p.printAll ls
    | (some fault, p) => (some fault, p)

/-- Writes the items of an outline until one is refused. -/
def printItems (p : Printer σ) (items : List Item) : Option SinkFault × Printer σ :=
  p.printAll (items.map Item.line)

/-- Passes on what has been written. -/
def flush (p : Printer σ) : Option SinkFault × Printer σ :=
  let (fault?, sink) := Writer.flush p.sink
  (fault?, { p with sink := sink })

/-- Does what a step asks for. -/
def step (p : Printer σ) : Step → Option SinkFault × Printer σ
  | .print line => p.print line
  | .flush => p.flush

/-- Does what the steps ask for, going on after a refusal, and gives the reason and the printer
after each step. -/
def steps (p : Printer σ) : List Step → List (Option SinkFault × Printer σ)
  | [] => []
  | s :: ss =>
    let r := p.step s
    r :: steps r.2 ss

/-- The texts that a whole line is put together from. -/
def texts (unit : String) (l : Line) : List String :=
  List.replicate (if unit.isEmpty then 0 else l.depth) unit ++ (l.pieces ++ ["\n"])

theorem offer_eq_writeEach (p : Printer σ) (l : Line) :
    p.offer l = Writer.writeEach p.sink (texts p.unit l) := by
  rw [texts, Writer.writeEach_append, ← Writer.writeTimes_eq_writeEach]
  rfl

/-- Printing lines until one is refused is writing their texts one after the other. -/
theorem printAll_eq_writeEach (ls : List Line) (p : Printer σ) :
    ((p.printAll ls).1, (p.printAll ls).2.sink)
      = Writer.writeEach p.sink (ls.flatMap (texts p.unit)) := by
  induction ls generalizing p with
  | nil => rfl
  | cons l ls ih =>
    rw [printAll, print, List.flatMap_cons, Writer.writeEach_append, ← offer_eq_writeEach]
    cases p.offer l with
    | mk fault? sink =>
      cases fault? with
      | none => exact ih _
      | some fault => rfl

/-- If no line is refused, all of them are counted. -/
theorem lines_printAll_of_none {ls : List Line} {p : Printer σ} (h : (p.printAll ls).1 = none) :
    (p.printAll ls).2.lines = p.lines + ls.length := by
  induction ls generalizing p with
  | nil => rfl
  | cons l ls ih =>
    rw [printAll, print] at h ⊢
    cases hoffer : p.offer l with
    | mk fault? sink =>
      rw [hoffer] at h
      cases fault? with
      | none =>
        refine (ih h).trans ?_
        rw [List.length_cons, Nat.add_comm ls.length, ← Nat.add_assoc]
        rfl
      | some fault => cases h

/-! ## Printing to a sink -/

theorem join_pieces (l : Line) : String.join (l.pieces ++ ["\n"]) = l.body ++ "\n" := by
  unfold Line.pieces Line.body
  cases l.value? with
  | none => simp [String.join_cons]
  | some value => simp [String.join_cons, String.append_assoc, toString]

/-- The texts of a line make up the line. -/
theorem join_texts (unit : String) (l : Line) : String.join (texts unit l) = l.text unit := by
  have h : String.join (List.replicate (if unit.isEmpty then 0 else l.depth) unit)
      = String.join (List.replicate l.depth unit) := by
    split
    · rename_i he
      rw [String.isEmpty_iff.1 he]
      induction l.depth with
      | zero => rfl
      | succ n ih => rw [List.replicate_succ, String.join_cons, ← ih]; rfl
    · rfl
  rw [texts, String.join_append, h, join_pieces, Line.text, String.append_assoc]

theorem offer_eq_write (p : Printer Sink) (l : Line) :
    p.offer l = p.sink.write (l.text p.unit).toUTF8 := by
  rw [offer_eq_writeEach, Sink.writeEach_eq_write, join_texts]

theorem print_eq (p : Printer Sink) (l : Line) :
    p.print l =
      let (fault?, sink) := p.sink.write (l.text p.unit).toUTF8
      let lines := if fault?.isNone then p.lines + 1 else p.lines
      (fault?, { p with sink := sink, lines := lines }) := by
  unfold print
  rw [offer_eq_write]

theorem join_flatMap_texts (unit : String) (ls : List Line) :
    String.join (ls.flatMap (texts unit)) = String.join (ls.map (Line.text unit)) := by
  induction ls with
  | nil => rfl
  | cons l ls ih =>
    rw [List.flatMap_cons, String.join_append, join_texts, ih, List.map_cons, String.join_cons]

/-- Writing lines until one is refused is writing all of them at once, but for the count. -/
theorem printAll_eq_write (ls : List Line) (p : Printer Sink) :
    ((p.printAll ls).1, (p.printAll ls).2.sink)
      = p.sink.write (String.join (ls.map (Line.text p.unit))).toUTF8 := by
  rw [printAll_eq_writeEach, Sink.writeEach_eq_write, join_flatMap_texts]

end Printer

/-- A line that shows a name alone. -/
def Line.named (depth : Nat) (name : String) : Line := ⟨depth, name, none⟩

/-- A line that shows the token with the given number. -/
def Line.token (depth code : Nat) : Line := ⟨depth, Token.codeName code, none⟩

/-- A line that shows the token with the given number and a value. -/
def Line.tokenValue (depth code : Nat) (value : String) : Line :=
  ⟨depth, Token.codeName code, some value⟩

/-- A line that shows a label and a value. -/
def Line.labelled (depth : Nat) (label value : String) : Line := ⟨depth, label, some value⟩

/-- Prints the outline of a program and passes it on; gives the number of lines. -/
def Program.print {σ : Type} [Writer σ] (program : Program) (unit : String) (sink : σ) :
    Except SinkFault Nat × σ :=
  match (Printer.new unit sink).printItems (program.outline 0) with
  | (some fault, p) => (.error fault, p.sink)
  | (none, p) =>
    match p.flush with
    | (some fault, p) => (.error fault, p.sink)
    | (none, p) => (.ok p.lines, p.sink)

/-- The texts that a program's outline is put together from. -/
def Program.texts (unit : String) (program : Program) : List String :=
  ((program.outline 0).map Item.line).flatMap (Printer.texts unit)

theorem Program.join_texts (unit : String) (program : Program) :
    String.join (program.texts unit) = program.outlineText unit := by
  rw [texts, Printer.join_flatMap_texts, List.map_map]
  rfl

/-- Printing a program is writing its texts and passing them on; all lines are counted then. -/
theorem Program.print_eq {σ : Type} [Writer σ] (program : Program) (unit : String) (sink : σ) :
    program.print unit sink =
      match Writer.writeEach sink (program.texts unit) with
      | (some fault, s) => (.error fault, s)
      | (none, s) =>
        match Writer.flush s with
        | (some fault, s) => (.error fault, s)
        | (none, s) => (.ok (program.outline 0).length, s) := by
  have hwrite := Printer.printAll_eq_writeEach ((program.outline 0).map Item.line) (.new unit sink)
  have hlines := @Printer.lines_printAll_of_none σ _ ((program.outline 0).map Item.line)
    (.new unit sink)
  unfold print Printer.printItems
  cases hp : (Printer.new unit sink).printAll ((program.outline 0).map Item.line) with
  | mk fault? p =>
    rw [hp] at hwrite hlines
    have hwritten : Writer.writeEach sink (program.texts unit) = (fault?, p.sink) := hwrite.symm
    rw [hwritten]
    cases fault? with
    | some fault => rfl
    | none =>
      have hcount : p.lines = (program.outline 0).length := by
        refine (hlines rfl).trans ?_
        rw [List.length_map]
        exact Nat.zero_add _
      dsimp only [Printer.flush]
      cases Writer.flush p.sink with
      | mk fault? s =>
        cases fault? with
        | some fault => rfl
        | none => rw [hcount]

end SyntaxOutline
