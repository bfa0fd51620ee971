import Mathlib
import SyntaxOutline.Proofs.Outline.Buffering
import SyntaxOutline.Proofs.Outline.StepByStep

/-!
# Printing to a sink that fills up

A sink that takes only so many bytes gets the first bytes of what a sink without a limit gets,
wherever in a line it fills up, and the printer stops there. The lines that it has counted by then
are those that fit in whole: the largest number of lines from the first on whose bytes are not too
many.

Writing lines until one is refused is writing their text at once (`printAll_eq_write`), so what the
sink holds and why it stopped is said by `Sink.write_eq`. The count is not: `lines_printAll` finds
it by induction on the lines.
-/

namespace SyntaxOutline

/-- The reasons that writing to a full sink may give: the sink's own, or that it took nothing. -/
def WhenFull.Reports : WhenFull → SinkFault → Prop
  | refuses own, fault => fault = own
  | takesNothing, fault => fault.message = "failed to write whole buffer"

/-- A sink that is full reports its own fault. -/
theorem WhenFull.reports_fault (w : WhenFull) : w.Reports w.fault := by
  cases w <;> rfl

/-- The number of bytes of the first `k` of some lines. -/
def leadSize (unit : String) (ls : List Line) (k : Nat) : Nat :=
  ((ls.take k).map fun l => (l.text unit).toUTF8.size).sum

@[simp] theorem leadSize_zero (unit : String) (ls : List Line) : leadSize unit ls 0 = 0 := by
  simp [leadSize]

/-- The first lines take the room of the first one and of those behind it. -/
@[simp] theorem leadSize_cons (unit : String) (l : Line) (ls : List Line) (k : Nat) :
    leadSize unit (l :: ls) (k + 1) = (l.text unit).toUTF8.size + leadSize unit ls k := by
  simp [leadSize]

/-- What is written to an empty sink that takes `limit` bytes. -/
theorem Sink.write_limited (limit : Nat) (whenFull : WhenFull) (flushFault? : Nat → Option SinkFault)
    (bytes : ByteArray) :
    (limited limit whenFull flushFault?).write bytes =
      (if bytes.size ≤ limit then none else some whenFull.fault,
        ⟨some limit, whenFull, flushFault?, bytes.extract 0 (min bytes.size limit), []⟩) := by
  have hroom : (limited limit whenFull flushFault?).room bytes.size = min bytes.size limit := rfl
  have htake : (limited limit whenFull flushFault?).take bytes (min bytes.size limit)
      = ⟨some limit, whenFull, flushFault?, bytes.extract 0 (min bytes.size limit), []⟩ := by
    rw [take, limited, ByteArray.empty_append]
  rw [write_eq, hroom, htake]
  by_cases hfits : bytes.size ≤ limit
  · rw [if_pos hfits, if_pos (Nat.min_eq_left hfits)]
  · rw [if_neg hfits, if_neg (by omega)]
    rfl

namespace Printer

/-- One line of a printer whose sink takes `limit` bytes: it goes through whole if there is room
for it, and is counted then. -/
theorem print_limited {p : Printer Sink} {limit : Nat} (h : p.sink.limit? = some limit) (l : Line) :
    ((l.text p.unit).toUTF8.size ≤ limit - p.sink.held.size ∧
      p.print l = (none, { p with
        sink := p.sink.take (l.text p.unit).toUTF8 (l.text p.unit).toUTF8.size
        lines := p.lines + 1 })) ∨
    (limit - p.sink.held.size < (l.text p.unit).toUTF8.size ∧
      p.print l = (some p.sink.whenFull.fault, { p with
        sink := p.sink.take (l.text p.unit).toUTF8 (limit - p.sink.held.size) })) := by
  rw [print_eq, Sink.write_eq, Sink.room, h]
  -- The sink takes the smaller of the line and the room there is.
  by_cases hfits : (l.text p.unit).toUTF8.size ≤ limit - p.sink.held.size
  · left
    refine ⟨hfits, ?_⟩
    simp only [Nat.min_eq_left hfits]
    rfl
  · right
    refine ⟨by omega, ?_⟩
    simp only [Nat.min_eq_right (Nat.le_of_not_le hfits)]
    rw [if_neg (by omega)]
    rfl

/-- The lines that a printer counts are those of which there is room for all bytes. -/
theorem lines_printAll (ls : List Line) {p : Printer Sink} {limit : Nat}
    (h : p.sink.limit? = some limit) :
    ∃ k, (p.printAll ls).2.lines = p.lines + k ∧
      IsGreatest {j | j ≤ ls.length ∧ leadSize p.unit ls j ≤ limit - p.sink.held.size} k := by
  induction ls generalizing p with
  | nil => exact ⟨0, rfl, ⟨Nat.le_refl _, Nat.zero_le _⟩, fun j hj => hj.1⟩
  | cons l ls ih =>
    rcases print_limited h l with ⟨hfits, hprint⟩ | ⟨hfull, hprint⟩
    · -- The line is counted, and the others have the room that it leaves.
      obtain ⟨k, hlines, ⟨hk, hsize⟩, hmax⟩ := ih (p := { p with
        sink := p.sink.take (l.text p.unit).toUTF8 (l.text p.unit).toUTF8.size
        lines := p.lines + 1 }) h
      have hheld : (p.sink.take (l.text p.unit).toUTF8 (l.text p.unit).toUTF8.size).held.size
          = p.sink.held.size + (l.text p.unit).toUTF8.size := by
        simp [Sink.take, ByteArray.size_append]
      simp only [hheld] at hsize hmax
      refine ⟨k + 1, ?_, ⟨Nat.succ_le_succ hk, ?_⟩, ?_⟩
      · rw [printAll, hprint]
        dsimp only
        rw [hlines]
        dsimp only
        omega
      · rw [leadSize_cons]
        omega
      · rintro j ⟨hj, hjsize⟩
        cases j with
        | zero => exact Nat.zero_le _
        | succ j =>
          rw [leadSize_cons] at hjsize
          exact Nat.succ_le_succ (hmax ⟨Nat.le_of_succ_le_succ hj, by omega⟩)
    · -- The line does not fit, so no line from here on is counted.
      refine ⟨0, ?_, ⟨Nat.zero_le _, by rw [leadSize_zero]; exact Nat.zero_le _⟩, ?_⟩
      · rw [printAll, hprint]
        rfl
      · rintro j ⟨hj, hjsize⟩
        cases j with
        | zero => exact Nat.le_refl _
        | succ j =>
          rw [leadSize_cons] at hjsize
          omega

end Printer

section Limited

variable (unit : String) (limit : Nat) (whenFull : WhenFull) (flushFault? : Nat → Option SinkFault)

variable {unit limit whenFull flushFault?} in
/-- What a new printer with a limited sink makes of items: the sink holds the first bytes of what is
printed without a limit, and the reason to stop is that it is full. -/
theorem printItems_limited {items : List Item} {fault? : Option SinkFault} {p : Printer Sink}
    (h : (Printer.new unit (Sink.limited limit whenFull flushFault?)).printItems items = (fault?, p)) :
    fault? = (if (printed unit items).size ≤ limit then none else some whenFull.fault) ∧
      p.sink = ⟨some limit, whenFull, flushFault?,
        (printed unit items).extract 0 (min (printed unit items).size limit), []⟩ := by
  have hwrite := Printer.printAll_eq_write (items.map Item.line)
    (.new unit (Sink.limited limit whenFull flushFault?))
  have hwhole : (String.join ((items.map Item.line).map (Line.text unit))).toUTF8
      = printed unit items := by
    rw [List.map_map]
    exact (printed_eq unit items).symm
  rw [Printer.printItems] at h
  rw [h, Printer.new, hwhole, Sink.write_limited, Prod.mk.injEq] at hwrite
  exact hwrite

/-- A printer counts as many lines as fit below the limit, no fewer and no more. -/
theorem lines_printItems_limited (items : List Item) :
    IsGreatest {j | j ≤ items.length ∧ leadSize unit (items.map Item.line) j ≤ limit}
      ((Printer.new unit (Sink.limited limit whenFull flushFault?)).printItems items).2.lines := by
  obtain ⟨k, hlines, hgreatest⟩ := Printer.lines_printAll (items.map Item.line)
    (p := .new unit (Sink.limited limit whenFull flushFault?)) rfl
  have hk : ((Printer.new unit (Sink.limited limit whenFull flushFault?)).printItems items).2.lines
      = k := hlines.trans (Nat.zero_add k)
  rw [hk]
  rw [List.length_map] at hgreatest
  exact hgreatest

/-- Printing a program to a sink with room for all of it: the sink is asked once to pass on what it
holds, and that is the whole. -/
theorem Program.print_of_fits {program : Program}
    (h : (printed unit (program.outline 0)).size ≤ limit) :
    program.print unit (Sink.limited limit whenFull flushFault?) =
      (match flushFault? 0 with
        | some fault => .error fault
        | none => .ok (program.outline 0).length,
        ⟨some limit, whenFull, flushFault?, printed unit (program.outline 0),
          [(printed unit (program.outline 0)).size]⟩) := by
  have hwhole : (program.outlineText unit).toUTF8 = printed unit (program.outline 0) :=
    (printed_eq unit _).symm
  rw [print_sink, hwhole, Sink.write_limited, if_pos h, Nat.min_eq_left h,
    ByteArray.extract_zero_size]
  dsimp only [Sink.flush, List.length_nil]
  cases flushFault? 0 <;> rfl

/-- Printing a program to a sink that has no room for all of it. -/
theorem Program.print_of_full {program : Program}
    (h : limit < (printed unit (program.outline 0)).size) :
    program.print unit (Sink.limited limit whenFull flushFault?) =
      (.error whenFull.fault, ⟨some limit, whenFull, flushFault?,
        (printed unit (program.outline 0)).extract 0 limit, []⟩) := by
  have hwhole : (program.outlineText unit).toUTF8 = printed unit (program.outline 0) :=
    (printed_eq unit _).symm
  rw [print_sink, hwhole, Sink.write_limited, if_neg (Nat.not_le.mpr h),
    Nat.min_eq_right (Nat.le_of_lt h)]

/-- A node of any kind, printed step by step to a sink that takes at most `limit` bytes: the sink
ends up with the first bytes of what a sink without a limit gets, the printer fails exactly if that
is too much, for the reason that the sink gives, and it has counted the lines that fit in whole. A
program is passed on once, when all of it is written, and then fails exactly if the sink refuses
that, for the reason that it gives. -/
theorem print_to_limited_sink :
    (∀ (k : NodeKind) (node : k.Tree) (depth : Nat),
      let items := k.outline depth node
      let whole := printed unit items
      let result := (Printer.new unit (Sink.limited limit whenFull flushFault?)).printItems items
      k.print depth node (Printer.new unit (Sink.limited limit whenFull flushFault?)) = result ∧
      whole = (outlineText unit items).toUTF8 ∧
      result.2.sink.held = whole.extract 0 (min limit whole.size) ∧
      (result.1 = none ↔ whole.size ≤ limit) ∧
      (limit < whole.size → ∃ fault, result.1 = some fault ∧ whenFull.Reports fault) ∧
      IsGreatest {j | j ≤ items.length ∧ leadSize unit (items.map Item.line) j ≤ limit}
        result.2.lines) ∧
    ∀ program : Program,
      let whole := printed unit (program.outline 0)
      let result := program.print unit (Sink.limited limit whenFull flushFault?)
      (limit < whole.size → result.2.held = whole.extract 0 limit ∧ result.2.flushed = [] ∧
        ∃ fault, result.1 = .error fault ∧ whenFull.Reports fault) ∧
      (whole.size ≤ limit → result.2.held = whole ∧ result.2.flushed = [whole.size] ∧
        result.1 =
          match flushFault? 0 with
          | some fault => .error fault
          | none => .ok (program.outline 0).length) := by
  refine ⟨fun k node depth => ?_, fun program => ⟨fun h => ?_, fun h => ?_⟩⟩
  · have hlines := lines_printItems_limited unit limit whenFull flushFault? (k.outline depth node)
    -- The result is named as a pair of its parts, as the lemma on limited sinks wants it.
    have heta := (Prod.eta ((Printer.new unit (Sink.limited limit whenFull flushFault?)).printItems
      (k.outline depth node))).symm
    obtain ⟨hfault, hsink⟩ := printItems_limited heta
    refine ⟨k.print_eq_printItems depth node _, printed_eq unit _, ?_, ?_, ?_, hlines⟩
    · rw [hsink, Nat.min_comm]
    · rw [hfault]
      by_cases hfits : (printed unit (k.outline depth node)).size ≤ limit
      · rw [if_pos hfits]
        exact iff_of_true rfl hfits
      · rw [if_neg hfits]
        exact iff_of_false nofun hfits
    · intro hfull
      rw [hfault, if_neg (Nat.not_le.mpr hfull)]
      exact ⟨_, rfl, whenFull.reports_fault⟩
  · rw [Program.print_of_full unit limit whenFull flushFault? h]
    exact ⟨rfl, rfl, _, rfl, whenFull.reports_fault⟩
  · rw [Program.print_of_fits unit limit whenFull flushFault? h]
    exact ⟨rfl, rfl, rfl⟩

end Limited

/-- A function that gives a variable a value. -/
private def counting : Program :=
  ⟨[.function .void "f" [] ⟨[], [.assign ⟨.var "total", .int ⟨"12345"⟩⟩]⟩]⟩

/-- The outline of the function up to the middle of the value. -/
private def countingCut : String :=
  "Program\n  DeclList\n    FuncDef\n      Type (VOID)\n      ID (f)\n      LPAREN\n" ++
  "      FormalsList\n      RPAREN\n      FuncBody\n        LCURLY\n        VarDeclList\n" ++
  "        StmtList\n          AssignStmt\n            ID (total)\n            ASSIGN\n" ++
  "            INTLITERAL (123"

/-- The rest of it. -/
private def countingRest : String := "45)\n            SEMICOLON\n        RCURLY\n"

/-- A function with a statement, printed to a sink that fills up in the middle of a value, and to
one that holds all of it and refuses to pass it on, but only the first time. -/
theorem print_to_limited_sink_counting :
    let refusing : Nat → Option SinkFault := fun n => if n = 0 then some .flushRefused else none
    let short := counting.print "  " (Sink.limited 263 .takesNothing fun _ => none)
    let whole := counting.print "  " (Sink.limited 304 (.refuses .diskFull) refusing)
    short.2.held = countingCut.toUTF8 ∧ short.2.flushed = [] ∧
      (∃ fault, short.1 = .error fault ∧ fault.message = "failed to write whole buffer") ∧
      whole.2.held = (countingCut ++ countingRest).toUTF8 ∧ whole.2.flushed = [304] ∧
      whole.1 = .error .flushRefused := by
  have htext : counting.outlineText "  " = countingCut ++ countingRest := by decide +kernel
  have hwhole : printed "  " (counting.outline 0) = countingCut.toUTF8 ++ countingRest.toUTF8 := by
    rw [printed_eq]
    exact (congrArg String.toUTF8 htext).trans String.toByteArray_append
  have hcut : countingCut.toUTF8.size = 263 := by decide +kernel
  have hsize : (printed "  " (counting.outline 0)).size = 304 := by
    have hrest : countingRest.toUTF8.size = 41 := by decide +kernel
    rw [hwhole, ByteArray.size_append, hcut, hrest]
  obtain ⟨hshort, hunasked, hreason⟩ :=
    ((print_to_limited_sink "  " 263 .takesNothing fun _ => none).2 counting).1
      (by rw [hsize]; decide)
  obtain ⟨hheld, hflushed, hrefused⟩ :=
    ((print_to_limited_sink "  " 304 (.refuses .diskFull)
      fun n => if n = 0 then some .flushRefused else none).2 counting).2 (Nat.le_of_eq hsize)
  refine ⟨?_, hunasked, hreason, ?_, hflushed.trans (by rw [hsize]), hrefused⟩
  · rw [hshort, hwhole, ByteArray.extract_append_eq_left hcut.symm]
  · exact (hheld.trans hwhole).trans String.toByteArray_append.symm

end SyntaxOutline
