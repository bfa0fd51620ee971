import SyntaxOutline.Outline.Buffer
import SyntaxOutline.Outline.Printer

/-!
# A buffer changes nothing but the time

What is printed over a buffer reaches the sink in order, and all of it that the sink would have
taken directly: the buffer decides only when a refusal is noticed. The invariant of a run without a
refusal is that the bytes passed on and the bytes held back make up what was written (`Carries`);
the first refusal finds the sink full, and nothing that is offered to it later gets in (`Cut`).

Main result: printed over a buffer, a program leaves the sink as if it had been printed to it
directly, and succeeds exactly if that would have (`Program.print_buffered`). A refusal may be
noticed only when the buffer is told to pass everything on.
-/

namespace SyntaxOutline

/-- The reasons that writing over a buffer to a full sink may give. -/
def WhenFull.faults : WhenFull → List SinkFault
  | refuses fault => [fault]
  | takesNothing => [.tookNothing, .keptBack]

/-- Why a buffer cannot pass on what it holds back to a full sink. -/
def WhenFull.heldBackFault : WhenFull → SinkFault
  | refuses fault => fault
  | takesNothing => .keptBack

/-- The fault of a full sink is one of its faults. -/
theorem WhenFull.fault_mem_faults (w : WhenFull) : w.fault ∈ w.faults := by
  cases w <;> exact List.mem_cons_self

/-- So is the fault of what was held back. -/
theorem WhenFull.heldBackFault_mem_faults (w : WhenFull) : w.heldBackFault ∈ w.faults := by
  cases w with
  | refuses fault => exact List.mem_cons_self
  | takesNothing => exact List.mem_cons_of_mem _ List.mem_cons_self

namespace Sink

/-- Writing changes what a sink holds, and nothing else. -/
theorem write_snd (s : Sink) (bytes : ByteArray) :
    ∃ held, (s.write bytes).2 = { s with held := held } := by
  rw [write_eq]
  exact ⟨_, rfl⟩

/-- A write does not change what the sink does when it is full. -/
theorem whenFull_write (s : Sink) (bytes : ByteArray) :
    (s.write bytes).2.whenFull = s.whenFull := by
  obtain ⟨held, h⟩ := s.write_snd bytes
  rw [h]

/-- What stops one stretch stops any that starts with it, at the same place. -/
theorem write_append_of_refused {s : Sink} {a : ByteArray} {fault : SinkFault} {after : Sink}
    (h : s.write a = (some fault, after)) (b : ByteArray) : s.write (a ++ b) = (some fault, after) := by
  rw [write_append, h]

/-- A stretch behind one that was taken. -/
theorem write_append_of_taken {s : Sink} {a : ByteArray} {after : Sink}
    (h : s.write a = (none, after)) (b : ByteArray) : s.write (a ++ b) = after.write b := by
  rw [write_append, h]

end Sink

namespace Buffered

/-! ## Passing on -/

/-- A full sink takes nothing of what is held back. -/
theorem passOn_of_full {b : Buffered} (hne : b.pending.size ≠ 0)
    (hfull : b.sink.room b.pending.size = 0) :
    b.passOn = (some b.sink.whenFull.heldBackFault, b) := by
  rw [passOn, if_neg hne, Sink.offer, hfull]
  cases b.sink.whenFull <;> rfl

/-- The sink takes what there is room for, and the rest stays where it is. -/
theorem passOn_eq (b : Buffered) :
    b.passOn =
      (if b.sink.room b.pending.size = b.pending.size then none
        else some b.sink.whenFull.heldBackFault,
        { b with
          sink := b.sink.take b.pending (b.sink.room b.pending.size)
          pending := b.pending.extract (b.sink.room b.pending.size) b.pending.size }) := by
  have hle := b.sink.room_le b.pending.size
  by_cases hempty : b.pending.size = 0
  · have hroom : b.sink.room b.pending.size = 0 := by omega
    have hpending : b.pending.extract 0 b.pending.size = b.pending := by
      rw [ByteArray.extract_zero_size]
    rw [passOn, if_pos hempty, if_pos (by omega), hroom, Sink.take_zero, hpending]
  cases hroom : b.sink.room b.pending.size with
  | zero =>
    rw [passOn_of_full hempty hroom, if_neg (by omega), Sink.take_zero,
      ByteArray.extract_zero_size]
  | succ n =>
    -- The first offer takes something; what it leaves finds the sink full, or is nothing.
    have hfirst : b.passOn = passOn { b with
        sink := b.sink.take b.pending (n + 1)
        pending := b.pending.extract (n + 1) b.pending.size } := by
      rw [passOn, if_neg hempty, Sink.offer, hroom]
    rw [hfirst]
    have hleft : (b.pending.extract (n + 1) b.pending.size).size = b.pending.size - (n + 1) := by
      rw [ByteArray.size_extract]
      omega
    by_cases hall : n + 1 = b.pending.size
    · rw [passOn, if_pos (by dsimp only; omega), if_pos hall]
    · have hfull := Sink.room_take hroom hall
      rw [passOn_of_full (by dsimp only; omega) (hfull _), if_neg hall]
      rfl

/-- What has nothing to pass on stays as it is. -/
theorem passOn_of_empty {b : Buffered} (h : b.pending = .empty) : b.passOn = (none, b) := by
  rw [passOn, h, if_pos ByteArray.size_empty]

/-! ## The invariant -/

/-- What was written over a buffer since its sink was `start`: the sink has taken some of it, and
the rest is held back. -/
def Carries (start : Sink) (whole : ByteArray) (b : Buffered) : Prop :=
  ∃ passed, start.write passed = (none, b.sink) ∧ passed ++ b.pending = whole

/-- What was written over a buffer since its sink was `start` is too much for the sink, which has
taken all that it can. -/
def Cut (start : Sink) (whole : ByteArray) (b : Buffered) : Prop :=
  ∃ fault, start.write whole = (some fault, b.sink)

variable {start : Sink} {whole : ByteArray} {b : Buffered}

/-- A new buffer has carried nothing. -/
theorem carries_new (sink : Sink) (capacity : Nat) : Carries sink .empty (.new sink capacity) :=
  ⟨.empty, Sink.write_empty sink, ByteArray.empty_append⟩

/-- What was cut off stays cut off, whatever is still to come. -/
theorem Cut.append (h : Cut start whole b) (more : ByteArray) : Cut start (whole ++ more) b := by
  obtain ⟨fault, h⟩ := h
  exact ⟨fault, Sink.write_append_of_refused h more⟩

/-- Nothing more gets into a sink that was found full. -/
theorem Cut.close_eq (h : Cut start whole b) : b.close = b.sink := by
  obtain ⟨fault, h⟩ := h
  rw [close, passOn_eq, Sink.room_of_refused h, Sink.take_zero]

/-- Passing on what is held back completes what was written, or finds the sink full. -/
theorem Carries.passOn (h : Carries start whole b) :
    (∃ sink, b.passOn = (none, { b with sink := sink, pending := .empty }) ∧
      start.write whole = (none, sink)) ∨
    ∃ fault after, b.passOn = (some fault, after) ∧ fault ∈ start.whenFull.faults ∧
      Cut start whole after := by
  obtain ⟨passed, hpassed, rfl⟩ := h
  -- Going on with what is held back is the same as one write of the whole.
  have hwhole := Sink.write_append_of_taken hpassed b.pending
  have hreason : b.sink.whenFull = start.whenFull := by
    rw [← Sink.whenFull_write start passed, hpassed]
  rw [Sink.write_eq b.sink] at hwhole
  rw [passOn_eq]
  -- The sink has room for all that is held back, or it ends up full.
  by_cases hall : b.sink.room b.pending.size = b.pending.size
  · left
    rw [if_pos hall, hall] at hwhole ⊢
    refine ⟨_, ?_, hwhole⟩
    have hnone : b.pending.extract b.pending.size b.pending.size = .empty := by simp
    rw [hnone]
  · right
    rw [if_neg hall] at hwhole ⊢
    refine ⟨_, _, rfl, ?_, _, hwhole⟩
    rw [hreason]
    exact start.whenFull.heldBackFault_mem_faults

/-- Bytes behind those that the sink has all taken. -/
theorem carries_of_taken {capacity : Nat} {sink : Sink} (h : start.write whole = (none, sink))
    (bytes : ByteArray) : Carries start (whole ++ bytes) ⟨sink, capacity, bytes⟩ :=
  ⟨whole, h, rfl⟩

/-- Bytes that go to the sink directly. -/
theorem carries_or_cut_of_direct {capacity : Nat} {sink : Sink}
    (h : start.write whole = (none, sink)) (bytes : ByteArray) :
    ((sink.write bytes).1 = none ∧
      Carries start (whole ++ bytes) ⟨(sink.write bytes).2, capacity, .empty⟩) ∨
    ∃ fault ∈ start.whenFull.faults, (sink.write bytes).1 = some fault ∧
      Cut start (whole ++ bytes) ⟨(sink.write bytes).2, capacity, .empty⟩ := by
  have hwhole := Sink.write_append_of_taken h bytes
  have hreason : sink.whenFull = start.whenFull := by
    rw [← Sink.whenFull_write start whole, h]
  cases hwrite : sink.write bytes with
  | mk fault? after =>
    rw [hwrite] at hwhole
    cases fault? with
    | none => exact .inl ⟨rfl, whole ++ bytes, hwhole, ByteArray.append_empty⟩
    | some fault =>
      refine .inr ⟨fault, ?_, rfl, fault, hwhole⟩
      rw [Sink.fault_of_refused hwrite, hreason]
      exact start.whenFull.fault_mem_faults

/-- One more stretch is carried too, or finds the sink full. -/
theorem Carries.write (h : Carries start whole b) (bytes : ByteArray) :
    ((b.write bytes).1 = none ∧ Carries start (whole ++ bytes) (b.write bytes).2) ∨
    ∃ fault ∈ start.whenFull.faults, (b.write bytes).1 = some fault ∧
      Cut start (whole ++ bytes) (b.write bytes).2 := by
  unfold Buffered.write makeRoom
  by_cases hroom : b.capacity - b.pending.size < bytes.size
  · -- The buffer is passed on first, so that nothing stands before the bytes.
    rw [if_pos hroom]
    rcases h.passOn with ⟨sink, hpass, htaken⟩ | ⟨fault, after, hpass, hfault, hcut⟩
    · rw [hpass]
      dsimp only
      split
      · exact carries_or_cut_of_direct htaken bytes
      · refine .inl ⟨rfl, ?_⟩
        have hheld : holdBack ⟨sink, b.capacity, .empty⟩ bytes = ⟨sink, b.capacity, bytes⟩ := by
          rw [holdBack, ByteArray.empty_append]
        rw [hheld]
        exact carries_of_taken htaken bytes
    · rw [hpass]
      exact .inr ⟨fault, hfault, rfl, hcut.append bytes⟩
  · rw [if_neg hroom]
    dsimp only
    obtain ⟨passed, hpassed, rfl⟩ := h
    split
    · next hlarge =>
      -- What is as large as the buffer goes past it. Nothing at all does too if there is no buffer.
      by_cases hnothing : bytes.size = 0
      · have hbytes : bytes = .empty := ByteArray.size_eq_zero_iff.mp hnothing
        rw [hbytes, Sink.write_empty, ByteArray.append_empty]
        exact .inl ⟨rfl, passed, hpassed, rfl⟩
      · -- A buffer with room for so much is empty.
        have hpending : b.pending = .empty := ByteArray.size_eq_zero_iff.mp (by omega)
        have hdirect := @carries_or_cut_of_direct start passed b.capacity b.sink hpassed bytes
        rw [hpending, ByteArray.append_empty]
        exact hdirect
    · refine .inl ⟨rfl, passed, hpassed, ?_⟩
      rw [holdBack, ByteArray.append_assoc]

/-- So are texts, one after the other. -/
theorem Carries.writeEach (h : Carries start whole b) (texts : List String) :
    (∃ after, Writer.writeEach b texts = (none, after) ∧
      Carries start (whole ++ (String.join texts).toUTF8) after) ∨
    ∃ fault after, Writer.writeEach b texts = (some fault, after) ∧
      fault ∈ start.whenFull.faults ∧ Cut start (whole ++ (String.join texts).toUTF8) after := by
  -- By induction on the texts: the buffer carries what was written so far, until it is cut.
  induction texts generalizing b whole with
  | nil =>
    refine .inl ⟨b, rfl, ?_⟩
    have hnone : whole ++ (String.join []).toUTF8 = whole := ByteArray.append_empty
    rwa [hnone]
  | cons text texts ih =>
    have hjoin : whole ++ (String.join (text :: texts)).toUTF8
        = whole ++ text.toUTF8 ++ (String.join texts).toUTF8 := by
      rw [String.join_cons, ByteArray.append_assoc]
      exact congrArg (whole ++ ·) String.toByteArray_append
    have hfirst : Writer.write b text.toUTF8 = b.write text.toUTF8 := rfl
    rw [hjoin, Writer.writeEach, hfirst]
    rcases h.write text.toUTF8 with ⟨hnone, hcarries⟩ | ⟨fault, hmem, hfault, hcut⟩
    · cases hwrite : b.write text.toUTF8 with
      | mk fault? after =>
        rw [hwrite] at hnone hcarries
        cases hnone
        exact ih hcarries
    · cases hwrite : b.write text.toUTF8 with
      | mk fault? after =>
        rw [hwrite] at hfault hcut
        cases hfault
        exact .inr ⟨fault, after, rfl, hmem, hcut.append _⟩

/-- To pass everything on comes to asking the sink for it when it holds everything; or the sink is
found full. -/
theorem Carries.flush (h : Carries start whole b) :
    (∃ sink, start.write whole = (none, sink) ∧
      b.flush = (sink.flush.1, { b with sink := sink.flush.2, pending := .empty })) ∨
    ∃ fault after, b.flush = (some fault, after) ∧ fault ∈ start.whenFull.faults ∧
      Cut start whole after := by
  unfold Buffered.flush
  rcases h.passOn with ⟨sink, hpass, htaken⟩ | ⟨fault, after, hpass, hfault, hcut⟩
  · rw [hpass]
    exact .inl ⟨sink, htaken, rfl⟩
  · rw [hpass]
    exact .inr ⟨fault, after, rfl, hfault, hcut⟩

end Buffered

/-! ## Programs -/

section Print

variable (program : Program) (unit : String) (sink : Sink)

/-- What comes of printing a program to a sink directly, by what the sink makes of its outline. -/
theorem Program.print_sink :
    program.print unit sink =
      match sink.write (program.outlineText unit).toUTF8 with
      | (some fault, s) => (.error fault, s)
      | (none, s) =>
        match s.flush with
        | (some fault, s) => (.error fault, s)
        | (none, s) => (.ok (program.outline 0).length, s) := by
  rw [print_eq, Sink.writeEach_eq_write, join_texts]
  cases sink.write (program.outlineText unit).toUTF8 with
  | mk fault? s =>
    cases fault? with
    | some fault => rfl
    | none =>
      dsimp only
      rw [Sink.writer_flush]
      cases s.flush with
      | mk fault? s => cases fault? <;> rfl

/-- A sink without a limit takes the whole outline, passes it on, and all of its lines are
counted. -/
theorem Program.print_unlimited :
    program.print unit Sink.unlimited = (.ok (program.outline 0).length,
      { Sink.unlimited with
        held := (program.outlineText unit).toUTF8
        flushed := [(program.outlineText unit).toUTF8.size] }) := by
  have hroom : Sink.unlimited.room (program.outlineText unit).toUTF8.size
      = (program.outlineText unit).toUTF8.size := rfl
  have htake : Sink.unlimited.take (program.outlineText unit).toUTF8
      (program.outlineText unit).toUTF8.size
        = { Sink.unlimited with held := (program.outlineText unit).toUTF8 } := by
    rw [Sink.take, ByteArray.extract_zero_size]
    exact congrArg (fun held => ({ Sink.unlimited with held := held } : Sink))
      ByteArray.empty_append
  rw [print_sink, Sink.write_eq, hroom, if_pos rfl, htake]
  rfl

/-- Printed over a buffer, a program leaves the sink as if it had been printed to it directly. It
succeeds exactly if that would have, and fails for a reason that the sink gives. -/
theorem Program.print_buffered (capacity : Nat) :
    (program.print unit (Buffered.new sink capacity)).2.close = (program.print unit sink).2 ∧
      ((program.print unit (Buffered.new sink capacity)).1 = (program.print unit sink).1 ∨
        ∃ fault ∈ sink.whenFull.faults,
          (program.print unit (Buffered.new sink capacity)).1 = .error fault ∧
          (program.print unit sink).1 = .error sink.whenFull.fault) := by
  -- Once the sink is full, the same first part is there as without a buffer.
  have hcut : ∀ {b : Buffered}, b.Cut sink (program.outlineText unit).toUTF8 →
      b.close = (program.print unit sink).2 ∧
        (program.print unit sink).1 = .error sink.whenFull.fault := by
    intro b h
    have hfull := h.close_eq
    obtain ⟨fault, h⟩ := h
    have hfault : fault = sink.whenFull.fault := Sink.fault_of_refused h
    rw [print_sink, h, hfull, hfault]
    exact ⟨rfl, rfl⟩
  have hjoin : ByteArray.empty ++ (String.join (program.texts unit)).toUTF8
      = (program.outlineText unit).toUTF8 := by
    rw [ByteArray.empty_append, join_texts]
  rw [print_eq program unit (Buffered.new sink capacity)]
  rcases (Buffered.carries_new sink capacity).writeEach (program.texts unit) with
    ⟨b, hwrite, hcarries⟩ | ⟨fault, b, hwrite, hfault, hstop⟩
  · rw [hjoin] at hcarries
    have hflush : Writer.flush b = b.flush := rfl
    rw [hwrite]
    dsimp only
    rw [hflush]
    -- All was written to the buffer. The sink may still turn out to be full when it is passed on.
    rcases hcarries.flush with ⟨s, htaken, hpassed⟩ | ⟨fault, after, hstopped, hfault, hstop⟩
    · rw [hpassed, print_sink, htaken]
      dsimp only
      cases hasked : s.flush with
      | mk fault? passed =>
        have hclose : Buffered.close { b with sink := passed, pending := .empty } = passed := by
          rw [Buffered.close, Buffered.passOn_of_empty rfl]
        cases fault? with
        | none => exact ⟨hclose, .inl rfl⟩
        | some fault => exact ⟨hclose, .inl rfl⟩
    · rw [hstopped]
      obtain ⟨hclose, hdirect⟩ := hcut hstop
      exact ⟨hclose, .inr ⟨fault, hfault, rfl, hdirect⟩⟩
  · rw [hjoin] at hstop
    rw [hwrite]
    obtain ⟨hclose, hdirect⟩ := hcut hstop
    exact ⟨hclose, .inr ⟨fault, hfault, rfl, hdirect⟩⟩

end Print

end SyntaxOutline
