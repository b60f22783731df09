/-!
# Collecting samples into chunks

The engine takes its audio in chunks of one size.  An accumulator collects samples until a
chunk is complete: a push takes as many as there is room for, and a drain hands out what is
held and leaves nothing behind.

A stretch of audio is cut into chunks by pushing and draining in turn (`Accumulator.cut`).
The small lemmas say what each operation does to the samples held.
-/

namespace LiveSpeech.Audio

set_option autoImplicit false

/-- Samples on their way into a chunk. -/
structure Accumulator where
  capacity : Nat
  held : List Float32
  positive : 0 < capacity
  fits : held.length ≤ capacity

namespace Accumulator

/-- An empty accumulator for chunks of the requested size, at least one sample. -/
def ofRequest (request : Nat) : Accumulator where
  capacity := max request 1
  held := []
  positive := by omega
  fits := by simp

/-- The samples that are missing to a complete chunk. -/
def room (accumulator : Accumulator) : Nat := accumulator.capacity - accumulator.held.length

def isFull (accumulator : Accumulator) : Bool := accumulator.held.length == accumulator.capacity

/-- How many of the samples a push takes. -/
def taken (accumulator : Accumulator) (samples : List Float32) : Nat :=
  min accumulator.room samples.length

/-- Takes as many samples as there is room for. -/
def push (accumulator : Accumulator) (samples : List Float32) : Accumulator where
  capacity := accumulator.capacity
  held := accumulator.held ++ samples.take accumulator.room
  positive := accumulator.positive
  fits := by
    have fits := accumulator.fits
    simp only [room, List.length_append, List.length_take]
    omega

/-- What is left after the samples held have been handed out. -/
def drained (accumulator : Accumulator) : Accumulator where
  capacity := accumulator.capacity
  held := []
  positive := accumulator.positive
  fits := by simp

@[simp] theorem push_capacity (accumulator : Accumulator) (samples : List Float32) :
    (accumulator.push samples).capacity = accumulator.capacity := rfl

@[simp] theorem push_held (accumulator : Accumulator) (samples : List Float32) :
    (accumulator.push samples).held = accumulator.held ++ samples.take accumulator.room := rfl

@[simp] theorem drained_capacity (accumulator : Accumulator) :
    accumulator.drained.capacity = accumulator.capacity := rfl

@[simp] theorem drained_held (accumulator : Accumulator) : accumulator.drained.held = [] := rfl

theorem isFull_iff (accumulator : Accumulator) :
    accumulator.isFull = true ↔ accumulator.held.length = accumulator.capacity := by
  simp [isFull]

/-- A push that completes the chunk has used up held samples or new ones. -/
theorem length_after_full (accumulator : Accumulator) (samples : List Float32)
    (full : (accumulator.push samples).isFull = true) :
    (samples.drop accumulator.room).length + accumulator.drained.held.length <
      samples.length + accumulator.held.length := by
  have positive := accumulator.positive
  have complete := (isFull_iff _).mp full
  simp only [push_held, push_capacity, List.length_append, List.length_take, room] at complete
  simp only [drained_held, List.length_nil, List.length_drop, room]
  omega

/-- The complete chunks that a stretch of samples yields, in order, and the accumulator with
what is left over. -/
def cut (accumulator : Accumulator) (samples : List Float32) :
    List (List Float32) × Accumulator :=
  if samples.isEmpty then ([], accumulator)
  else if _full : (accumulator.push samples).isFull = true then
    let (chunks, last) := cut accumulator.drained (samples.drop accumulator.room)
    ((accumulator.push samples).held :: chunks, last)
  else ([], accumulator.push samples)
termination_by samples.length + accumulator.held.length
decreasing_by exact length_after_full accumulator samples ‹_›

end Accumulator

end LiveSpeech.Audio
