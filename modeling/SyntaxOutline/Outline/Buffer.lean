import SyntaxOutline.Outline.Sink

/-!
# A buffer before a sink

A buffered sink holds bytes back until there are too many of them for its buffer, and passes them on
then, in order. A stretch that is not smaller than the buffer goes to the sink directly, behind what
was held back. So a refusal of the sink is noticed late: by a later stretch, when it is asked to
pass everything on, or not at all if it is closed first.
-/

namespace SyntaxOutline

/-- A sink with a buffer before it. -/
structure Buffered where
  sink : Sink
  /-- The number of bytes that can be held back. -/
  capacity : Nat
  /-- The bytes that are held back. -/
  pending : ByteArray

namespace Buffered

/-- The bytes that a buffer holds back unless another number is asked for. -/
def defaultCapacity : Nat := 8192

/-- A sink with an empty buffer before it. -/
def new (sink : Sink) (capacity : Nat) : Buffered := ⟨sink, capacity, .empty⟩

/-- Offers the sink what is held back until it has taken it all, or says why it did not. What it
does not take stays in the buffer. -/
def passOn (b : Buffered) : Option SinkFault × Buffered :=
  if b.pending.size = 0 then (none, b)
  else
    match b.sink.offer b.pending with
    | .error fault => (some fault, b)
    -- To offer the same once more would never end.
    | .ok (0, sink) => (some .keptBack, { b with sink := sink })
    | .ok (n + 1, sink) =>
      passOn { b with sink := sink, pending := b.pending.extract (n + 1) b.pending.size }
termination_by b.pending.size
decreasing_by
  rw [ByteArray.size_extract]
  omega

/-- Holds bytes back. -/
def holdBack (b : Buffered) (bytes : ByteArray) : Buffered :=
  { b with pending := b.pending ++ bytes }

/-- Makes room in the buffer for `size` more bytes, if there is not enough. -/
def makeRoom (b : Buffered) (size : Nat) : Option SinkFault × Buffered :=
  if b.capacity - b.pending.size < size then b.passOn else (none, b)

/-- Holds bytes back, or writes them to the sink if the buffer is too small for them. -/
def write (b : Buffered) (bytes : ByteArray) : Option SinkFault × Buffered :=
  match b.makeRoom bytes.size with
  | (some fault, b) => (some fault, b)
  | (none, b) =>
    -- What would fill the buffer goes past it. Nothing else is held back by now.
    if b.capacity ≤ bytes.size then
      let (fault?, sink) := b.sink.write bytes
      (fault?, { b with sink := sink })
    else (none, b.holdBack bytes)

/-- Passes on what is held back, and asks the sink to pass on what it holds. -/
def flush (b : Buffered) : Option SinkFault × Buffered :=
  match b.passOn with
  | (some fault, b) => (some fault, b)
  | (none, b) =>
    let (fault?, sink) := b.sink.flush
    (fault?, { b with sink := sink })

/-- Gives the sink up. What is held back is offered to it once more, and nobody hears of a
refusal. -/
def close (b : Buffered) : Sink := b.passOn.2.sink

instance : Writer Buffered := ⟨write, flush⟩

end Buffered

end SyntaxOutline
