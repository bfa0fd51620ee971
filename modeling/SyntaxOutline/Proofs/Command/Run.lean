import Mathlib
import SyntaxOutline.Command.Report
import SyntaxOutline.Proofs.Files.Frame
import SyntaxOutline.Proofs.Outline.Buffering

/-!
# What `run` leaves behind

A run reads its input, prints that it could be parsed, opens its output and prints the outline of
the program into it over a buffer. It stops at the first of these that fails. Nothing is touched
before the output has been opened, and nothing but the output after that. The files may have any
contents, paths may lead to the same file, and the system may refuse to read, to open, to go on
writing at any point, or to pass on what was written.

Over the buffer the output takes what it would take of the whole outline directly
(`Program.print_buffered`), so it has all of it exactly if there was room for it (`Outcome`).
-/

namespace SyntaxOutline

/-! ## Printing into a sink that has taken nothing -/

/-- The bytes that a program is printed as. -/
def Program.rendering (program : Program) (unit : String) : ByteArray :=
  (program.print unit Sink.unlimited).2.held

section Print

variable (program : Program) (unit : String)

/-- A sink without a limit gets the whole outline. -/
theorem Program.rendering_eq : program.rendering unit = (program.outlineText unit).toUTF8 := by
  rw [rendering, print_unlimited]

/-- There is a line for the program itself. -/
theorem Program.rendering_size_pos : 0 < (program.rendering unit).size := by
  rw [rendering_eq]
  show 0 < (String.toByteArray (String.join (List.map _ (_ :: _)))).size
  rw [List.map_cons, String.join_cons, String.toByteArray_append, ByteArray.size_append, Line.text,
    String.toByteArray_append, ByteArray.size_append]
  have hfeed : "\n".toByteArray.size = 1 := rfl
  omega

/-- A sink that has taken nothing. -/
structure Sink.Fresh (sink : Sink) : Prop where
  held_eq : sink.held = .empty
  flushed_eq : sink.flushed = []

/-- What has become of a sink that some bytes were written to: it holds as much of them as there was
room for; if that was all, it was asked to pass them on then, and only then; and all went well
exactly if it was all and was passed on. -/
structure Sink.Outcome (sink : Sink) (bytes : ByteArray) (ok : Prop) (after : Sink) : Prop where
  held_eq : after.held = bytes.extract 0 (sink.room bytes.size)
  flushed_eq : after.flushed = if sink.room bytes.size = bytes.size then [bytes.size] else []
  ok_iff : ok ↔ sink.room bytes.size = bytes.size ∧ sink.flushFault? 0 = none

/-- That is, exactly if it holds all of them, was asked to pass them on then, and did. -/
theorem Sink.Outcome.ok_iff_held {sink after : Sink} {bytes : ByteArray} {ok : Prop}
    (h : sink.Outcome bytes ok after) :
    ok ↔ after.held = bytes ∧ after.flushed = [bytes.size] ∧ sink.flushFault? 0 = none := by
  rw [h.ok_iff, h.held_eq, h.flushed_eq]
  constructor
  · intro hall
    refine ⟨?_, if_pos hall.1, hall.2⟩
    rw [hall.1, ByteArray.extract_zero_size]
  · intro hall
    obtain ⟨hbytes, -, hpassed⟩ := hall
    refine ⟨?_, hpassed⟩
    -- A first part that is the whole is no shorter.
    have hsize := congrArg ByteArray.size hbytes
    have hle := sink.room_le bytes.size
    rw [ByteArray.size_extract] at hsize
    omega

variable {sink : Sink}

/-- What a fresh sink takes is all that it holds. -/
theorem Sink.Fresh.held_take (h : sink.Fresh) (bytes : ByteArray) (n : Nat) :
    (sink.take bytes n).held = bytes.extract 0 n := by
  show sink.held ++ _ = _
  rw [h.held_eq, ByteArray.empty_append]

/-- A fresh sink that has taken all of some bytes is asked for the first time to pass them on. -/
theorem Sink.Fresh.flush_take (h : sink.Fresh) (bytes : ByteArray) :
    (sink.take bytes bytes.size).flush =
      (sink.flushFault? 0, { sink with held := bytes, flushed := [bytes.size] }) := by
  have hheld : (sink.take bytes bytes.size).held = bytes := by
    rw [h.held_take, ByteArray.extract_zero_size]
  have hflushed : (sink.take bytes bytes.size).flushed = [] := h.flushed_eq
  rw [Sink.flush, hheld, hflushed]
  rfl

/-- Printed into a fresh sink, a program is there as far as there is room for it. -/
theorem Program.print_fresh (h : sink.Fresh) :
    sink.Outcome (program.rendering unit) (∃ lines, (program.print unit sink).1 = .ok lines)
      (program.print unit sink).2 := by
  rw [print_sink, ← rendering_eq, Sink.write_eq]
  by_cases hall : sink.room (program.rendering unit).size = (program.rendering unit).size
  · rw [if_pos hall, hall]
    dsimp only
    rw [h.flush_take]
    have hwhole : program.rendering unit = (program.rendering unit).extract 0
        (sink.room (program.rendering unit).size) := by
      rw [hall, ByteArray.extract_zero_size]
    cases hfault : sink.flushFault? 0 with
    | none => exact ⟨hwhole, (if_pos hall).symm, fun _ => ⟨hall, hfault⟩, fun _ => ⟨_, rfl⟩⟩
    | some fault => exact ⟨hwhole, (if_pos hall).symm, by simp [hfault]⟩
  · rw [if_neg hall]
    exact ⟨h.held_take _ _, h.flushed_eq.trans (if_neg hall).symm, by simp [hall]⟩

end Print

/-! ## Writing the output -/

namespace FileStore

/-- Whether an opened output takes so many bytes and passes them on when it is first asked to. -/
def Takes (s : FileStore) (size : Nat) : Opened → Prop
  | .file route =>
    (∀ bound ∈ (s.access route).bound?, size ≤ bound.1) ∧ (s.access route).flushFault? 0 = none
  | .device full => full = false

/-- An opened file has taken nothing. -/
theorem sink_fresh (s : FileStore) (opened : Opened) : (s.sink opened).Fresh := by
  rcases opened with route | _ | _ <;> exact ⟨rfl, rfl⟩

/-- An output takes so many bytes, and passes them on, if its sink has room for them and does. -/
theorem takes_iff (s : FileStore) (opened : Opened) {size : Nat} (hpos : 0 < size) :
    s.Takes size opened ↔
      (s.sink opened).room size = size ∧ (s.sink opened).flushFault? 0 = none := by
  rcases opened with route | _ | _
  · show (∀ bound ∈ (s.access route).bound?, size ≤ bound.1) ∧ _ ↔
      (s.access route).sink.room size = size ∧ ((s.access route).flushFault? 0).map _ = none
    rw [Option.map_eq_none_iff]
    refine and_congr_left fun _ => ?_
    unfold Access.sink Sink.room
    cases hbound : (s.access route).bound? with
    | none => simp
    | some bound =>
      obtain ⟨limit, e⟩ := bound
      simp
  · exact iff_of_true rfl ⟨rfl, rfl⟩
  · refine iff_of_false Bool.noConfusion fun h => ?_
    have hroom : min size 0 = size := h.1
    omega

/-- What an output is in the end when the outline of a program has been printed to it. -/
def outputAfter (s : FileStore) (program : Program) (unit : String) (opened : Opened) : Sink :=
  (program.print unit (Buffered.new (s.sink opened) Buffered.defaultCapacity)).2.close

section Written

variable {s made : FileStore} {path unit : String} {opened : Opened} (program : Program)

/-- What an output that can be opened comes to. -/
theorem outcome (made : FileStore) (unit : String) (opened : Opened) :
    (made.sink opened).Outcome (program.rendering unit)
      (∃ lines, (program.print unit
        (Buffered.new (made.sink opened) Buffered.defaultCapacity)).1 = .ok lines)
      (made.outputAfter program unit opened) := by
  obtain ⟨hclose, hresult⟩ := program.print_buffered unit (made.sink opened)
    Buffered.defaultCapacity
  obtain ⟨hheld, hflushed, hok⟩ := program.print_fresh unit (made.sink_fresh opened)
  rw [outputAfter, hclose]
  refine ⟨hheld, hflushed, ?_⟩
  rw [← hok]
  rcases hresult with hsame | ⟨fault, -, herror, hdirect⟩
  · rw [hsame]
  · rw [herror, hdirect]
    simp

/-- What is left of an output, and whether all went well. -/
theorem writeOutline_of_create (h : s.create path = .ok (opened, made)) :
    (s.writeOutline program path unit).2
        = made.keep (made.outputAfter program unit opened).held opened ∧
      (made.sink opened).Outcome (program.rendering unit)
        (∃ lines, (s.writeOutline program path unit).1 = .ok lines)
        (made.outputAfter program unit opened) := by
  have houtcome := outcome program made unit opened
  unfold writeOutline
  unfold outputAfter at houtcome ⊢
  rw [h]
  dsimp only
  cases hprint : program.print unit (Buffered.new (made.sink opened) Buffered.defaultCapacity) with
  | mk result output =>
    rw [hprint] at houtcome
    refine ⟨by cases result <;> rfl, houtcome.held_eq, houtcome.flushed_eq, ?_⟩
    rw [← houtcome.ok_iff]
    cases result with
    | ok lines => simp
    | error fault => simp

/-- All goes well exactly if the output takes the whole. -/
theorem writeOutline_ok_iff (h : s.create path = .ok (opened, made)) :
    (∃ lines, (s.writeOutline program path unit).1 = .ok lines) ↔
      made.Takes (program.rendering unit).size opened := by
  rw [made.takes_iff opened (program.rendering_size_pos unit)]
  exact (writeOutline_of_create program h).2.ok_iff

/-- A file has as much of the outline as it takes. -/
theorem contents?_writeOutline_file {route : Route}
    (h : s.create path = .ok (.file route, made)) :
    (s.writeOutline program path unit).2.contents? path = some ((program.rendering unit).extract 0
      ((made.sink (.file route)).room (program.rendering unit).size)) := by
  rw [(writeOutline_of_create program h).1, contents?_keep_file h,
    (outcome program made unit (.file route)).held_eq]

/-- An output that cannot be opened. -/
theorem writeOutline_of_not_created {e : SystemError} (h : s.create path = .error e) :
    s.writeOutline program path unit = (.error (.outputNotOpened path e), s) := by
  rw [writeOutline, h]

/-- Whatever comes of the output, every other node is as it was. -/
theorem node?_writeOutline {q : Route} (hq : s.leadsTo path ≠ .ok q) :
    (s.writeOutline program path unit).2.node? q = s.node? q := by
  cases h : s.create path with
  | error e => rw [writeOutline_of_not_created program h]
  | ok result =>
    obtain ⟨opened, made⟩ := result
    rw [(writeOutline_of_create program h).1]
    exact node?_keep h _ hq

/-- And every path that leads elsewhere has the contents that it had. -/
theorem contents?_writeOutline {other : String} (hother : s.leadsTo other ≠ s.leadsTo path) :
    (s.writeOutline program path unit).2.contents? other = s.contents? other := by
  cases h : s.create path with
  | error e => rw [writeOutline_of_not_created program h]
  | ok result =>
    obtain ⟨opened, made⟩ := result
    rw [(writeOutline_of_create program h).1]
    exact contents?_keep h _ hother

end Written

/-! ## Reading the input -/

/-- The regular file at a path can be read and is the source of a program. -/
def Spells (s : FileStore) (path : String) (program : Program) : Prop :=
  ∃ bytes source, s.contents? path = some bytes ∧ (s.accessTo path).unreadable? = none ∧
    String.fromUTF8? bytes = some source ∧ parse source = .ok program

/-- What is made of a file that can be read. -/
theorem program_of_contents {s : FileStore} {path source : String} {bytes : ByteArray}
    (hbytes : s.contents? path = some bytes) (haccess : (s.accessTo path).unreadable? = none)
    (hsource : String.fromUTF8? bytes = some source) :
    (s.input path).program path =
      match parse source with
      | .ok program => .ok (source, program)
      | .error e => .error (.sourceRefused e) := by
  cases hparse : parse source with
  | ok program => simp only [input, hbytes, haccess, Input.program, hsource, hparse]
  | error e => simp only [input, hbytes, haccess, Input.program, hsource, hparse]

/-- The programs of an input are those that are read from it. -/
theorem spells_iff {s : FileStore} {path : String} {program : Program} :
    s.Spells path program ↔ ∃ source, (s.input path).program path = .ok (source, program) := by
  constructor
  · intro h
    obtain ⟨bytes, source, hbytes, haccess, hsource, hparse⟩ := h
    refine ⟨source, ?_⟩
    rw [program_of_contents hbytes haccess hsource, hparse]
  · intro h
    obtain ⟨source, h⟩ := h
    -- Each step of the reading that is refused gives no program.
    unfold input at h
    split at h
    · cases h
    · cases h
    · next bytes hbytes haccess =>
      unfold Input.program at h
      dsimp only at h
      split at h
      · cases h
      · next text htext =>
        split at h
        · next p hparse =>
          cases h
          exact ⟨bytes, source, hbytes, haccess, htext, hparse⟩
        · cases h

/-- A file spells one program. -/
theorem Spells.unique {s : FileStore} {path : String} {p q : Program} (hp : s.Spells path p)
    (hq : s.Spells path q) : p = q := by
  obtain ⟨source, hp⟩ := spells_iff.mp hp
  obtain ⟨source', hq⟩ := spells_iff.mp hq
  rw [hp] at hq
  cases hq
  rfl

end FileStore

/-! ## The whole run -/

/-- What is promised of a run from an input to an output, with the outline indented by `unit`, on
the files of `s`. It ends with a report and leaves the files as they are in `after`. -/
structure RunPromise (s : FileStore) (input output unit : String) (report : Report)
    (after : FileStore) : Prop where
  exitCode : report.exitCode = 0 ∨ report.exitCode = 1
  output_of_spells (program : Program) (h : s.Spells input program) :
    report.output = "Parsed successfully!\n"
  output_of_not_spells (h : ∀ program, ¬ s.Spells input program) : report.output = ""
  /-- A source that is refused is reported with the position of its fault. -/
  refused (bytes : ByteArray) (source : String) (e : SourceError)
    (hbytes : s.contents? input = some bytes) (haccess : (s.accessTo input).unreadable? = none)
    (hsource : String.fromUTF8? bytes = some source) (hparse : parse source = .error e) :
    report.errors? = some ("At line: " ++ toString e.position.line ++ ", column: "
      ++ toString e.position.column ++ " **ERROR** " ++ e.detail ++ "\n")
  /-- Without a program, or without an output to write to, nothing is touched. -/
  untouched (h : (∀ program, ¬ s.Spells input program) ∨ ∃ e, s.create output = .error e) :
    after = s ∧ report.exitCode = 1
  /-- It ends well exactly if there is a program, and an output that takes all of its outline and
  passes it on. -/
  exitCode_eq_zero_iff : report.exitCode = 0 ↔
    ∃ program opened made, s.Spells input program ∧ s.create output = .ok (opened, made) ∧
      made.Takes (program.outlineText unit).toUTF8.size opened
  /-- That is, exactly if the whole outline was written to the output, and was passed on when it was
  all there. -/
  exitCode_eq_zero_iff_passed_on (program : Program) (opened : FileStore.Opened) (made : FileStore)
    (h : s.Spells input program) (hcreate : s.create output = .ok (opened, made)) :
    report.exitCode = 0 ↔
      (made.outputAfter program unit opened).held = (program.outlineText unit).toUTF8 ∧
      (made.outputAfter program unit opened).flushed = [(program.outlineText unit).toUTF8.size] ∧
      (made.sink opened).flushFault? 0 = none
  /-- Then the outline, and nothing else, is at the output's path, unless that leads to a device. It
  is what a sink without a limit gets. -/
  contents (program : Program) (route : Route) (made : FileStore) (h : s.Spells input program)
    (hcreate : s.create output = .ok (.file route, made)) (hend : report.exitCode = 0) :
    after.contents? output = some (program.outlineText unit).toUTF8 ∧
      (program.print unit Sink.unlimited).2.held = (program.outlineText unit).toUTF8
  /-- If it does not end well although a file was opened, the file has a first part of the outline.
  It may have all of it only if it was not passed on. -/
  contents_cut (program : Program) (route : Route) (made : FileStore)
    (h : s.Spells input program) (hcreate : s.create output = .ok (.file route, made))
    (hend : report.exitCode = 1) :
    ∃ n, after.contents? output = some ((program.outlineText unit).toUTF8.extract 0 n) ∧
      (n < (program.outlineText unit).toUTF8.size ∨ (s.access route).flushFault? 0 ≠ none)
  /-- However it ends, no node changes but the one that the output's path leads to, -/
  node?_eq (route : Route) (h : s.leadsTo output ≠ .ok route) : after.node? route = s.node? route
  /-- and no path has other contents but those that lead there. -/
  contents?_eq (path : String) (h : s.leadsTo path ≠ s.leadsTo output) :
    after.contents? path = s.contents? path

/-- How a refused source is told of where there is no colour. -/
theorem told_sourceRefused (e : SourceError) :
    (TransferError.sourceRefused e).told false =
      "At line: " ++ toString e.position.line ++ ", column: " ++ toString e.position.column
        ++ " **ERROR** " ++ e.detail ++ "\n" := by
  have htag : ∀ rest, " " ++ ("**ERROR**" ++ (" " ++ rest)) = " **ERROR** " ++ rest := by
    intro rest
    rw [← String.append_assoc, ← String.append_assoc]
    rfl
  show "" ++ ("At line: " ++ toString e.position.line ++ ", column: " ++ toString e.position.column
    ++ " " ++ "**ERROR**" ++ " " ++ e.detail) ++ "\n" = _
  simp only [String.empty_append, String.append_assoc, htag]

namespace RunPromise

variable {s : FileStore} {input output unit : String}

/-- No program could be read. -/
theorem of_unread {e : TransferError} (h : (s.input input).program input = .error e) :
    RunPromise s input output unit ⟨1, "", some (e.told false)⟩ s := by
  have hno : ∀ program, ¬ s.Spells input program := by
    intro program hspells
    obtain ⟨source, hok⟩ := FileStore.spells_iff.mp hspells
    rw [h] at hok
    cases hok
  constructor
  case exitCode => exact .inr rfl
  case output_of_spells => exact fun program hspells => absurd hspells (hno program)
  case output_of_not_spells => exact fun _ => rfl
  case refused =>
    intro bytes source refusal hbytes haccess hsource hparse
    rw [FileStore.program_of_contents hbytes haccess hsource, hparse] at h
    cases h
    exact congrArg some (told_sourceRefused refusal)
  case untouched => exact fun _ => ⟨rfl, rfl⟩
  case exitCode_eq_zero_iff =>
    refine iff_of_false (by simp) fun hwhole => ?_
    obtain ⟨program, _, _, hspells, -⟩ := hwhole
    exact hno program hspells
  case exitCode_eq_zero_iff_passed_on =>
    exact fun program _ _ hspells => absurd hspells (hno program)
  case contents => exact fun program _ _ hspells => absurd hspells (hno program)
  case contents_cut => exact fun program _ _ hspells => absurd hspells (hno program)
  case node?_eq => exact fun _ _ => rfl
  case contents?_eq => exact fun _ _ => rfl

/-- A program was read, and its outline was or was not written. -/
theorem of_spells {program : Program} (hspells : s.Spells input program) {report : Report}
    (houtput : report.output = "Parsed successfully!\n")
    (hexit : report.exitCode = 0 ∨ report.exitCode = 1)
    (hcode : report.exitCode = 0 ↔ ∃ lines, (s.writeOutline program output unit).1 = .ok lines) :
    RunPromise s input output unit report (s.writeOutline program output unit).2 := by
  have hwhole := program.rendering_eq unit
  constructor
  case exitCode => exact hexit
  case output_of_spells => exact fun _ _ => houtput
  case output_of_not_spells => exact fun hno => absurd hspells (hno program)
  case refused =>
    intro bytes source e hbytes haccess hsource hparse
    obtain ⟨source', hok⟩ := FileStore.spells_iff.mp hspells
    rw [FileStore.program_of_contents hbytes haccess hsource, hparse] at hok
    cases hok
  case untouched =>
    intro hno
    rcases hno with hno | ⟨e, hcreate⟩
    · exact absurd hspells (hno program)
    · rw [FileStore.writeOutline_of_not_created program hcreate] at hcode ⊢
      refine ⟨rfl, hexit.resolve_left fun hend => ?_⟩
      obtain ⟨lines, hok⟩ := hcode.mp hend
      cases hok
  case exitCode_eq_zero_iff =>
    rw [hcode]
    constructor
    · intro hok
      cases hcreate : s.create output with
      | error e =>
        rw [FileStore.writeOutline_of_not_created program hcreate] at hok
        obtain ⟨lines, hok⟩ := hok
        cases hok
      | ok result =>
        obtain ⟨opened, made⟩ := result
        rw [FileStore.writeOutline_ok_iff program hcreate, hwhole] at hok
        exact ⟨program, opened, made, hspells, rfl, hok⟩
    · intro htakes
      obtain ⟨other, opened, made, hother, hcreate, htakes⟩ := htakes
      cases hother.unique hspells
      rwa [FileStore.writeOutline_ok_iff program hcreate, hwhole]
  case exitCode_eq_zero_iff_passed_on =>
    intro other opened made hother hcreate
    cases hother.unique hspells
    rw [hcode, (FileStore.writeOutline_of_create program hcreate).2.ok_iff_held, hwhole]
  case contents =>
    intro other route made hother hcreate hend
    cases hother.unique hspells
    have hall := (FileStore.writeOutline_of_create program hcreate).2.ok_iff.mp (hcode.mp hend)
    rw [FileStore.contents?_writeOutline_file program hcreate, hall.1,
      ByteArray.extract_zero_size, hwhole]
    exact ⟨rfl, hwhole⟩
  case contents_cut =>
    intro other route made hother hcreate hend
    cases hother.unique hspells
    have hnot : ¬ ∃ lines, (s.writeOutline program output unit).1 = .ok lines := by
      rw [← hcode, hend]
      simp
    rw [(FileStore.writeOutline_of_create program hcreate).2.ok_iff] at hnot
    refine ⟨(made.sink (.file route)).room (program.rendering unit).size, ?_, ?_⟩
    · rw [FileStore.contents?_writeOutline_file program hcreate, hwhole]
    · rw [← FileStore.access_of_create hcreate, ← hwhole]
      have hle := (made.sink (.file route)).room_le (program.rendering unit).size
      by_cases hall : (made.sink (.file route)).room (program.rendering unit).size
          = (program.rendering unit).size
      · right
        intro hpassed
        refine hnot ⟨hall, ?_⟩
        show ((made.access route).flushFault? 0).map _ = none
        rw [hpassed]
        rfl
      · left
        omega
  case node?_eq => exact fun route hroute => FileStore.node?_writeOutline program hroute
  case contents?_eq => exact fun path hpath => FileStore.contents?_writeOutline program hpath

end RunPromise

/-- A run without further words does what is promised of it. -/
theorem performRun_promise (s : FileStore) (input output : String) (width : IndentWidth) :
    RunPromise s input output width.unit (s.performRun ⟨input, output, width, false⟩ false).1
      (s.performRun ⟨input, output, width, false⟩ false).2 := by
  unfold FileStore.performRun RunOptions.prepare
  -- The run stops here without a program, and nothing has been opened yet.
  cases hprogram : (s.input input).program input with
  | error e =>
    have hsilent : (RunOptions.mk input output width false).announceInput = "" := rfl
    dsimp only
    rw [hsilent, String.empty_append]
    exact .of_unread hprogram
  | ok result =>
    obtain ⟨source, program⟩ := result
    dsimp only
    refine .of_spells (FileStore.spells_iff.mpr ⟨source, hprogram⟩) ?_ ?_ ?_
    · cases (s.writeOutline program output width.unit).1 <;> rfl
    · cases (s.writeOutline program output width.unit).1 with
      | ok lines => exact .inl rfl
      | error e => exact .inr rfl
    · cases (s.writeOutline program output width.unit).1 with
      | ok lines => exact ⟨fun _ => ⟨lines, rfl⟩, fun _ => rfl⟩
      | error e => exact iff_of_false (by simp [Pending.conclude]) (by simp)

/-- The words of a command line that asks for a run with a width and two paths. -/
theorem ofArguments_run {word : String} {width : IndentWidth}
    (hword : IndentWidth.ofText? word = some width) {input output : String} (hinput : input ≠ "")
    (houtput : output ≠ "") :
    Command.ofArguments ["run", "--indent", word, "--", input, output]
      = some (.run ⟨input, output, width, false⟩) := by
  have hi : input.isEmpty = false := by simpa using hinput
  have ho : output.isEmpty = false := by simpa using houtput
  show Command.ofRunWords ["--indent", word, "--", input, output] = _
  simp [Command.ofRunWords, Command.readWords, Command.setIndent, hword, Command.readPaths,
    Command.addPath, Command.runShape, hi, ho]

/-- A run does what is promised, whatever the files are and whatever the system refuses, for each of
the two widths of indentation; and a command line with a width and two paths asks for that run. -/
theorem run_keeps_promise (s : FileStore) (input output : String) :
    ∀ choice ∈ [("2", IndentWidth.two, "  "), ("4", IndentWidth.four, "    ")],
      RunPromise s input output choice.2.2
        (s.performRun ⟨input, output, choice.2.1, false⟩ false).1
        (s.performRun ⟨input, output, choice.2.1, false⟩ false).2 ∧
      (input ≠ "" → output ≠ "" →
        s.perform ["run", "--indent", choice.1, "--", input, output] false
          = s.performRun ⟨input, output, choice.2.1, false⟩ false) := by
  have hperform : ∀ {word width}, IndentWidth.ofText? word = some width →
      input ≠ "" → output ≠ "" →
      s.perform ["run", "--indent", word, "--", input, output] false
        = s.performRun ⟨input, output, width, false⟩ false := by
    intro word width hword hinput houtput
    rw [FileStore.perform, ofArguments_run hword hinput houtput]
  intro choice hchoice
  -- One width after the other; they only differ in their unit.
  rcases List.mem_cons.mp hchoice with rfl | hchoice
  · exact ⟨performRun_promise s input output .two, hperform rfl⟩
  · rw [List.mem_singleton.mp hchoice]
    exact ⟨performRun_promise s input output .four, hperform rfl⟩

/-- A source, an earlier output and a note, in a system that may have a bound for the output. -/
private def sourceAndNote (bound? : Option (Nat × SystemError)) : FileStore :=
  { nodes :=
      [(["a"], .file "int x;".toUTF8), (["b"], .file "old".toUTF8), (["n"], .file "note".toUTF8)]
    working := []
    access := fun route => if route = ["b"] then { bound? := bound? } else {} }

/-- What is written for the source, with the wider indentation. -/
private def variableOutline : ByteArray :=
  ("Program\n    DeclList\n        VarDecl\n            Type (INT)\n            ID (x)\n"
    ++ "            SEMICOLON\n").toUTF8

/-- A program with one variable, written with the wider indentation: all of it where the system
takes it, and a first part where the system takes six bytes, which only shows when the buffer is
passed on at the end. The note stays as it is. -/
theorem run_keeps_promise_four :
    Command.ofArguments ["run", "a", "b", "--indent", "4"]
        = Command.ofArguments ["run", "--indent", "4", "--", "a", "b"] ∧
      ((sourceAndNote none).perform ["run", "--indent", "4", "--", "a", "b"] false).1.exitCode = 0 ∧
      ((sourceAndNote none).perform ["run", "--indent", "4", "--", "a", "b"] false).2.contents? "b"
        = some variableOutline ∧
      ((sourceAndNote none).perform ["run", "--indent", "4", "--", "a", "b"] false).2.contents? "n"
        = some "note".toUTF8 ∧
      ((sourceAndNote (some (6, .noSpace))).perform
        ["run", "--indent", "4", "--", "a", "b"] false).1.exitCode = 1 ∧
      ∃ n < variableOutline.size, ((sourceAndNote (some (6, .noSpace))).perform
        ["run", "--indent", "4", "--", "a", "b"] false).2.contents? "b"
          = some (variableOutline.extract 0 n) := by
  have hspells : ∀ bound?, (sourceAndNote bound?).Spells "a" ⟨[.var ⟨.int, "x", none⟩]⟩ := by
    intro bound?
    refine ⟨"int x;".toUTF8, "int x;", ?_, ?_, ?_, ?_⟩
    · cbv
    · cbv
    · with_unfolding_all rfl
    · with_unfolding_all rfl
  have houtline : (Program.outlineText "    " ⟨[.var ⟨.int, "x", none⟩]⟩).toUTF8
      = variableOutline := by
    with_unfolding_all rfl
  have hcreate : ∀ bound?, (sourceAndNote bound?).create "b" =
      .ok (.file ["b"], (sourceAndNote bound?).put ["b"] (.file .empty)) := by
    intro bound?
    cbv
  have hnote : (sourceAndNote none).leadsTo "n" ≠ (sourceAndNote none).leadsTo "b" := by
    have hn : (sourceAndNote none).leadsTo "n" = .ok ["n"] := by cbv
    have hb : (sourceAndNote none).leadsTo "b" = .ok ["b"] := by cbv
    rw [hn, hb]
    simp
  have hfour : ∀ bound?, (RunPromise (sourceAndNote bound?) "a" "b" "    "
      ((sourceAndNote bound?).perform ["run", "--indent", "4", "--", "a", "b"] false).1
      ((sourceAndNote bound?).perform ["run", "--indent", "4", "--", "a", "b"] false).2) := by
    intro bound?
    obtain ⟨hpromise, hperform⟩ := run_keeps_promise (sourceAndNote bound?) "a" "b"
      ("4", .four, "    ") (by simp)
    rw [hperform (by decide) (by decide)]
    exact hpromise
  have hwhole := (hfour none).exitCode_eq_zero_iff.mpr
    ⟨_, _, _, hspells none, hcreate none, by rintro bound ⟨⟩, rfl⟩
  have hcut := (hfour (some (6, .noSpace))).exitCode.resolve_left fun hend => by
    obtain ⟨program, opened, made, hother, hopened, htakes⟩ :=
      (hfour _).exitCode_eq_zero_iff.mp hend
    cases hother.unique (hspells _)
    cases hopened.symm.trans (hcreate _)
    have hroom := htakes.1 (6, .noSpace) rfl
    revert hroom
    rw [houtline]
    decide +kernel
  refine ⟨by decide +kernel, hwhole, ?_, ?_, hcut, ?_⟩
  · rw [((hfour none).contents _ _ _ (hspells none) (hcreate none) hwhole).1, houtline]
  · rw [(hfour none).contents?_eq "n" hnote]
    cbv
  · obtain ⟨n, hpart, hshort | hrefused⟩ :=
      (hfour _).contents_cut _ _ _ (hspells _) (hcreate _) hcut
    · rw [houtline] at hpart hshort
      exact ⟨n, hshort, hpart⟩
    · exact absurd rfl hrefused

end SyntaxOutline
