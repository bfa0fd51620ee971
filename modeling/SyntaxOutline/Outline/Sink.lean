import SyntaxOutline.Files.SystemError

/-!
# Where text goes

A writer is whatever bytes can be written to, and that can be asked to pass them on.

A sink is the plainest writer. It takes bytes in order, up to a limit if it has one. Of a stretch
that is too long for it, it takes what there is room for; when it is full, it refuses what it is
offered or takes none of it. What it has taken stays. To write a stretch is to offer again what was
not taken, as long as some of it is. Each time it is asked to pass its bytes on, it may refuse.

`write_eq` says what writing comes to, and `write_append` that it makes no difference whether two
stretches are written one after the other or at once.
-/

namespace SyntaxOutline

/-- Why a sink refuses bytes, or refuses to pass them on. -/
inductive SinkFault where
  | diskFull
  | tookNothing
  | keptBack
  | flushRefused
  | system (error : SystemError)
deriving DecidableEq, Repr

/-- The wording of each reason. -/
def SinkFault.message : SinkFault → String
  | diskFull => "disk full"
  | tookNothing => "failed to write whole buffer"
  | keptBack => "failed to write the buffered data"
  | flushRefused => "flush refused"
  | system error => error.message

/-- The wording of a rendering that a sink cut short. -/
def SinkFault.renderMessage (f : SinkFault) : String := s!"Failed to write rendering: {f.message}"

/-- What bytes can be written to. -/
class Writer (σ : Type) where
  /-- Writes bytes, or says why not all of them could be written. -/
  write : σ → ByteArray → Option SinkFault × σ
  /-- Passes on what has been written, or says why that was not done. -/
  flush : σ → Option SinkFault × σ

namespace Writer

variable {σ : Type} [Writer σ]

/-- Writes a text a number of times, until some of it is not taken. -/
def writeTimes (s : σ) (text : String) : Nat → Option SinkFault × σ
  | 0 => (none, s)
  | n + 1 =>
    match write s text.toUTF8 with
    | (none, s) => writeTimes s text n
    | (some fault, s) => (some fault, s)

/-- Writes texts, until some of one is not taken. -/
def writeEach (s : σ) : List String → Option SinkFault × σ
  | [] => (none, s)
  | text :: texts =>
    match write s text.toUTF8 with
    | (none, s) => writeEach s texts
    | (some fault, s) => (some fault, s)

theorem writeTimes_eq_writeEach (s : σ) (text : String) (n : Nat) :
    writeTimes s text n = writeEach s (List.replicate n text) := by
  induction n generalizing s with
  | zero => rfl
  | succ n ih =>
    rw [List.replicate_succ, writeTimes, writeEach]
    simp only [ih]

theorem writeEach_append (s : σ) (texts more : List String) :
    writeEach s (texts ++ more) =
      match writeEach s texts with
      | (none, s) => writeEach s more
      | (some fault, s) => (some fault, s) := by
  induction texts generalizing s with
  | nil => rfl
  | cons text texts ih =>
    rw [List.cons_append, writeEach, writeEach]
    cases write s text.toUTF8 with
    | mk fault? s =>
      cases fault? with
      | none => exact ih s
      | some fault => rfl

end Writer

/-- What a full sink does with the bytes that it is offered. -/
inductive WhenFull where
  | refuses (fault : SinkFault)
  | takesNothing
deriving DecidableEq, Repr

/-- Why writing to a full sink stops. -/
def WhenFull.fault : WhenFull → SinkFault
  | refuses fault => fault
  | takesNothing => .tookNothing

/-- A sink and what it has taken. -/
structure Sink where
  /-- The number of bytes it takes in all, if there is a bound. -/
  limit? : Option Nat
  whenFull : WhenFull
  /-- Why it refuses to pass its bytes on the first time, the second time and so on, if it does. -/
  flushFault? : Nat → Option SinkFault
  /-- The bytes it has taken. -/
  held : ByteArray
  /-- How many bytes it held each time it was asked to pass them on. -/
  flushed : List Nat := []

namespace Sink

/-- An empty sink that takes everything. -/
def unlimited : Sink := ⟨none, .takesNothing, fun _ => none, .empty, []⟩

/-- A sink that takes at most `limit` bytes, and has taken none. -/
def limited (limit : Nat) (whenFull : WhenFull) (flushFault? : Nat → Option SinkFault) : Sink :=
  ⟨some limit, whenFull, flushFault?, .empty, []⟩

/-- How many of `size` further bytes there is room for. -/
def room (s : Sink) (size : Nat) : Nat :=
  match s.limit? with
  | none => size
  | some limit => min size (limit - s.held.size)

/-- The sink with the first `n` bytes of a stretch taken. -/
def take (s : Sink) (bytes : ByteArray) (n : Nat) : Sink :=
  { s with held := s.held ++ bytes.extract 0 n }

/-- Offers bytes to a sink once, and says how many of them it took. -/
def offer (s : Sink) (bytes : ByteArray) : Except SinkFault (Nat × Sink) :=
  match s.room bytes.size with
  | 0 =>
    match s.whenFull with
    | .refuses fault => .error fault
    | .takesNothing => .ok (0, s)
  | n + 1 => .ok (n + 1, s.take bytes (n + 1))

/-- Offers bytes to a sink until it has taken them all, or says why it did not. -/
def write (s : Sink) (bytes : ByteArray) : Option SinkFault × Sink :=
  if bytes.size = 0 then (none, s)
  else
    match s.offer bytes with
    | .error fault => (some fault, s)
    | .ok (0, s) => (some .tookNothing, s)
    | .ok (n + 1, s) => s.write (bytes.extract (n + 1) bytes.size)
termination_by bytes.size
decreasing_by
  rw [ByteArray.size_extract]
  omega

/-- Asks a sink to pass its bytes on. -/
def flush (s : Sink) : Option SinkFault × Sink :=
  (s.flushFault? s.flushed.length, { s with flushed := s.flushed ++ [s.held.size] })

instance : Writer Sink := ⟨write, flush⟩

theorem writer_write (s : Sink) (bytes : ByteArray) : Writer.write s bytes = s.write bytes := rfl

theorem writer_flush (s : Sink) : Writer.flush s = s.flush := rfl

/-! ## What writing comes to -/

theorem room_le (s : Sink) (size : Nat) : s.room size ≤ size := by
  unfold room
  split
  · exact Nat.le_refl size
  · exact Nat.min_le_left ..

theorem take_zero (s : Sink) (bytes : ByteArray) : s.take bytes 0 = s := by
  have h : bytes.extract 0 0 = .empty := by simp
  rw [take, h, ByteArray.append_empty]

/-- A sink that did not take all it was offered is full. -/
theorem room_take {s : Sink} {bytes : ByteArray} {n : Nat} (hroom : s.room bytes.size = n)
    (hne : n ≠ bytes.size) (size : Nat) : (s.take bytes n).room size = 0 := by
  have h : s.room bytes.size ≠ bytes.size := by rwa [hroom]
  subst hroom
  unfold room at h ⊢
  cases hlimit : s.limit? with
  | none =>
    rw [hlimit] at h
    exact absurd rfl h
  | some limit =>
    rw [hlimit] at h
    simp only [take, hlimit, ByteArray.size_append, ByteArray.size_extract] at h ⊢
    omega

/-- What a full sink says to bytes that it is offered. -/
theorem write_of_full {s : Sink} {bytes : ByteArray} (hne : bytes.size ≠ 0)
    (hfull : s.room bytes.size = 0) : s.write bytes = (some s.whenFull.fault, s) := by
  rw [write, if_neg hne, offer, hfull]
  cases s.whenFull <;> rfl

/-- A sink takes what there is room for, and refuses the rest if there is one. -/
theorem write_eq (s : Sink) (bytes : ByteArray) :
    s.write bytes =
      (if s.room bytes.size = bytes.size then none else some s.whenFull.fault,
        s.take bytes (s.room bytes.size)) := by
  have hle := s.room_le bytes.size
  by_cases hempty : bytes.size = 0
  · have hroom : s.room bytes.size = 0 := by omega
    rw [write, if_pos hempty, if_pos (by omega), hroom, take_zero]
  cases hroom : s.room bytes.size with
  | zero => rw [write_of_full hempty hroom, if_neg (by omega), take_zero]
  | succ n =>
    -- The first offer takes something; what it leaves finds the sink full, or is nothing.
    have hfirst : s.write bytes
        = (s.take bytes (n + 1)).write (bytes.extract (n + 1) bytes.size) := by
      rw [write, if_neg hempty, offer, hroom]
    rw [hfirst]
    by_cases hall : n + 1 = bytes.size
    · rw [write, if_pos (by rw [ByteArray.size_extract]; omega), if_pos hall]
    · have hfull := room_take hroom hall
      rw [write_of_full (by rw [ByteArray.size_extract]; omega) (hfull _), if_neg hall]
      rfl

/-- What is not taken is refused because the sink is full. -/
theorem fault_of_refused {s after : Sink} {bytes : ByteArray} {fault : SinkFault}
    (h : s.write bytes = (some fault, after)) : fault = s.whenFull.fault := by
  rw [write_eq, Prod.mk.injEq] at h
  have hfault := h.1
  split at hfault
  · cases hfault
  · exact (Option.some.inj hfault).symm

/-- And it is full then. -/
theorem room_of_refused {s after : Sink} {bytes : ByteArray} {fault : SinkFault}
    (h : s.write bytes = (some fault, after)) (size : Nat) : after.room size = 0 := by
  rw [write_eq, Prod.mk.injEq] at h
  obtain ⟨hfault, rfl⟩ := h
  by_cases hall : s.room bytes.size = bytes.size
  · rw [if_pos hall] at hfault
    cases hfault
  · exact room_take rfl hall size

theorem write_empty (s : Sink) : s.write .empty = (none, s) := by
  rw [write, if_pos ByteArray.size_empty]

/-- A sink that has taken all of a stretch has the room that is left for the next one. -/
theorem room_of_taken {s : Sink} {bytes : ByteArray} (h : s.room bytes.size = bytes.size)
    (more : Nat) :
    s.room (bytes.size + more) = bytes.size + (s.take bytes bytes.size).room more := by
  unfold room at h ⊢
  cases hlimit : s.limit? with
  | none => simp only [take, hlimit]
  | some limit =>
    rw [hlimit] at h
    simp only [take, hlimit, ByteArray.size_append, ByteArray.size_extract] at h ⊢
    omega

/-- What follows a stretch that is too long finds no room. -/
theorem room_of_not_taken {s : Sink} {size : Nat} (h : s.room size ≠ size) (more : Nat) :
    s.room (size + more) = s.room size := by
  unfold room at h ⊢
  cases hlimit : s.limit? with
  | none =>
    rw [hlimit] at h
    exact absurd rfl h
  | some limit =>
    rw [hlimit] at h
    dsimp only at h ⊢
    omega

theorem take_append (s : Sink) (a b : ByteArray) (n : Nat) :
    s.take (a ++ b) (a.size + n) = (s.take a a.size).take b n := by
  have ha : a.extract 0 (a.size + n) = a.extract 0 a.size := by
    apply ByteArray.ext
    rw [ByteArray.data_extract, ByteArray.data_extract]
    exact (Array.extract_eq_self_of_le (Nat.le_add_right ..)).trans
      (Array.extract_eq_self_of_le (Nat.le_refl _)).symm
  have hn : a.size + n - a.size = n := by omega
  simp only [take, ByteArray.extract_append, ha, hn, Nat.zero_sub, ByteArray.append_assoc]

theorem take_append_of_le (s : Sink) (a b : ByteArray) {n : Nat} (h : n ≤ a.size) :
    s.take (a ++ b) n = s.take a n := by
  have hn : n - a.size = 0 := by omega
  rw [take, take, ByteArray.extract_append, hn]
  simp

theorem write_append (s : Sink) (a b : ByteArray) :
    s.write (a ++ b) =
      match s.write a with
      | (none, s) => s.write b
      | (some fault, s) => (some fault, s) := by
  rw [write_eq, write_eq, ByteArray.size_append]
  by_cases ha : s.room a.size = a.size
  · have hroom := room_of_taken ha b.size
    rw [if_pos ha, ha, hroom, take_append]
    dsimp only
    simp only [write_eq, Nat.add_left_cancel_iff]
    rfl
  · have hle := s.room_le a.size
    rw [if_neg ha, room_of_not_taken ha, if_neg (by omega), take_append_of_le _ _ _ hle]

theorem writeEach_eq_write (s : Sink) (texts : List String) :
    Writer.writeEach s texts = s.write (String.join texts).toUTF8 := by
  induction texts generalizing s with
  | nil => exact (write_empty s).symm
  | cons text texts ih =>
    rw [String.join_cons, String.toUTF8, String.toByteArray_append, write_append, Writer.writeEach,
      writer_write]
    split
    · rename_i s' h
      rw [← String.toUTF8, h, ih]
      rfl
    · rename_i fault s' h
      rw [← String.toUTF8, h]

end Sink

end SyntaxOutline
