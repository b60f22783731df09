import LiveSpeech.Proofs.Chunks

/-!
# An accumulator in memory

The samples that an accumulator holds lie in a row of cells, one for each sample of a chunk.  A
push copies samples over the next cells.  A drain hands out the cells that are filled, and then
only forgets how many they were.  The row is never cleared: behind a drain it still has the
samples of earlier chunks in it (`Cells`).

None of them is seen again.  What a row of cells answers depends on the cells that are filled and
on nothing else, so that it answers like an accumulator, which holds no other samples
(`Cells.Stores.exchange`).  An accumulator in turn is a queue: what was handed out and what is
held are the samples that were taken, in their order (`Accumulator.drainedIn_append_held`).
-/

namespace LiveSpeech.Audio

set_option autoImplicit false

/-! ## Requests and answers -/

/-- What can be asked of an accumulator. -/
inductive ChunkRequest where
  | push (samples : List Float32)
  | drain

/-- What is answered: how many of the samples were taken, or all samples that were held. -/
inductive ChunkReply where
  | taken (count : Nat)
  | drained (samples : List Float32)

/-- Requests one after the other: each of them with its answer, and what the last one leaves. -/
def exchange {State : Type} (respond : State → ChunkRequest → ChunkReply × State) :
    State → List ChunkRequest → List (ChunkRequest × ChunkReply) × State
  | state, [] => ([], state)
  | state, request :: others =>
    let (reply, next) := respond state request
    let (more, last) := exchange respond next others
    ((request, reply) :: more, last)

theorem exchange_append {State : Type} (respond : State → ChunkRequest → ChunkReply × State)
    (state : State) (first second : List ChunkRequest) :
    exchange respond state (first ++ second) =
      ((exchange respond state first).1 ++
          (exchange respond (exchange respond state first).2 second).1,
        (exchange respond (exchange respond state first).2 second).2) := by
  induction first generalizing state with
  | nil => rfl
  | cons request first ih => simp only [List.cons_append, exchange, ih]

theorem length_exchange {State : Type} (respond : State → ChunkRequest → ChunkReply × State)
    (state : State) (requests : List ChunkRequest) :
    (exchange respond state requests).1.length = requests.length := by
  induction requests generalizing state with
  | nil => rfl
  | cons request requests ih => simp only [exchange, List.length_cons, ih]

/-- The samples that a push took, by its answer. -/
def takenBy : ChunkRequest × ChunkReply → List Float32
  | (.push samples, .taken count) => samples.take count
  | _ => []

/-- The samples that a drain handed out. -/
def drainedBy : ChunkRequest × ChunkReply → List Float32
  | (.drain, .drained samples) => samples
  | _ => []

/-! ## The queue -/

namespace Accumulator

/-- Answers a request. -/
def respond (accumulator : Accumulator) : ChunkRequest → ChunkReply × Accumulator
  | .push samples => (.taken (accumulator.taken samples), accumulator.push samples)
  | .drain => (.drained accumulator.held, accumulator.drained)

@[simp] theorem respond_capacity (accumulator : Accumulator) (request : ChunkRequest) :
    (accumulator.respond request).2.capacity = accumulator.capacity := by
  cases request <;> rfl

/-- What a push takes are the samples that there is room for. -/
theorem take_taken (accumulator : Accumulator) (samples : List Float32) :
    samples.take (accumulator.taken samples) = samples.take accumulator.room := by
  rw [taken, ← List.take_take, List.take_length]

/-- A request loses no sample and adds none. -/
theorem drainedBy_append_held (accumulator : Accumulator) (request : ChunkRequest) :
    drainedBy (request, (accumulator.respond request).1) ++ (accumulator.respond request).2.held =
      accumulator.held ++ takenBy (request, (accumulator.respond request).1) := by
  cases request with
  | push samples =>
    simp only [respond, drainedBy, takenBy, push_held, take_taken, List.nil_append]
  | drain => rfl

@[simp] theorem exchange_capacity (accumulator : Accumulator) (requests : List ChunkRequest) :
    (exchange respond accumulator requests).2.capacity = accumulator.capacity := by
  induction requests generalizing accumulator with
  | nil => rfl
  | cons request requests ih => exact (ih _).trans (respond_capacity accumulator request)

/-- **What was handed out and what is held** are the samples that were held before and those that
were taken, in their order. -/
theorem drainedIn_append_held (accumulator : Accumulator) (requests : List ChunkRequest) :
    (exchange respond accumulator requests).1.flatMap drainedBy ++
        (exchange respond accumulator requests).2.held =
      accumulator.held ++ (exchange respond accumulator requests).1.flatMap takenBy := by
  induction requests generalizing accumulator with
  | nil => exact (List.append_nil _).symm
  | cons request requests ih =>
    simp only [exchange, List.flatMap_cons]
    rw [List.append_assoc, ih, ← List.append_assoc, drainedBy_append_held, List.append_assoc]

/-- Behind a drain an accumulator is as it was made. -/
theorem drained_eq_ofRequest {accumulator : Accumulator} {request : Nat}
    (size : accumulator.capacity = max request 1) : accumulator.drained = ofRequest request :=
  eq_of_held size rfl

end Accumulator

/-! ## Cells -/

/-- A row with samples written over it from a place on. -/
def overwrite (row : List Float32) (place : Nat) (samples : List Float32) : List Float32 :=
  row.take place ++ samples ++ row.drop (place + samples.length)

section Overwrite

variable {row samples : List Float32} {place : Nat}

theorem length_overwrite (within : place + samples.length ≤ row.length) :
    (overwrite row place samples).length = row.length := by
  simp only [overwrite, List.length_append, List.length_take, List.length_drop]
  omega

/-- In front of where the samples end stand the samples, and what stood in front of them. -/
theorem take_overwrite (within : place ≤ row.length) :
    (overwrite row place samples).take (place + samples.length) = row.take place ++ samples := by
  have front : (row.take place ++ samples).length = place + samples.length := by
    rw [List.length_append, List.length_take_of_le within]
  rw [overwrite, ← front, List.take_left]

end Overwrite

/-- A row of cells for the samples of a chunk.  The first of them are filled; what is in the
others was left by earlier chunks. -/
structure Cells where
  row : List Float32
  /-- How many cells are filled. -/
  filled : Nat
  within : filled ≤ row.length

namespace Cells

/-- New cells for chunks of the requested size, at least one sample. -/
def ofRequest (request : Nat) : Cells := ⟨List.replicate (max request 1) 0.0, 0, Nat.zero_le _⟩

/-- The samples in the cells that are filled. -/
def held (cells : Cells) : List Float32 := cells.row.take cells.filled

/-- How many of the samples a push takes. -/
def taken (cells : Cells) (samples : List Float32) : Nat :=
  min (cells.row.length - cells.filled) samples.length

/-- The samples that a push takes lie within the row. -/
theorem filled_add_taken_le (cells : Cells) (samples : List Float32) :
    cells.filled + (samples.take (cells.taken samples)).length ≤ cells.row.length := by
  have within := cells.within
  simp only [taken, List.length_take]
  omega

/-- Copies as many samples as there is room for over the next cells. -/
def push (cells : Cells) (samples : List Float32) : Cells where
  row := overwrite cells.row cells.filled (samples.take (cells.taken samples))
  filled := cells.filled + (samples.take (cells.taken samples)).length
  within := by
    rw [length_overwrite (cells.filled_add_taken_le samples)]
    exact cells.filled_add_taken_le samples

/-- The same cells, of which none counts as filled. -/
def drained (cells : Cells) : Cells := ⟨cells.row, 0, Nat.zero_le _⟩

/-- Answers a request. -/
def respond (cells : Cells) : ChunkRequest → ChunkReply × Cells
  | .push samples => (.taken (cells.taken samples), cells.push samples)
  | .drain => (.drained cells.held, cells.drained)

/-- **The cells store what an accumulator holds**, whatever else is in them. -/
structure Stores (cells : Cells) (accumulator : Accumulator) : Prop where
  size : cells.row.length = accumulator.capacity
  held : cells.held = accumulator.held

/-- New cells store what a new accumulator holds, which is nothing. -/
theorem stores_ofRequest (request : Nat) :
    (ofRequest request).Stores (.ofRequest request) where
  size := List.length_replicate
  held := List.take_zero

namespace Stores

variable {cells : Cells} {accumulator : Accumulator}

theorem room (stores : cells.Stores accumulator) :
    cells.row.length - cells.filled = accumulator.room := by
  have filled : accumulator.held.length = cells.filled := by
    rw [← stores.held, Cells.held, List.length_take_of_le cells.within]
  rw [Accumulator.room, filled, stores.size]

theorem taken (stores : cells.Stores accumulator) (samples : List Float32) :
    cells.taken samples = accumulator.taken samples := by
  rw [Cells.taken, stores.room, Accumulator.taken]

/-- A push leaves in front what was there and puts the samples behind it. -/
theorem push (stores : cells.Stores accumulator) (samples : List Float32) :
    (cells.push samples).Stores (accumulator.push samples) where
  size := (length_overwrite (cells.filled_add_taken_le samples)).trans stores.size
  held := by
    rw [Cells.held, Cells.push, take_overwrite cells.within, stores.taken,
      Accumulator.take_taken, Accumulator.push_held, ← stores.held, Cells.held]

/-- Whatever a drain leaves in the cells, they store nothing. -/
theorem drained (stores : cells.Stores accumulator) :
    cells.drained.Stores accumulator.drained where
  size := stores.size
  held := List.take_zero

/-- The cells answer a request as the accumulator does, and store what it then holds. -/
theorem respond (stores : cells.Stores accumulator) (request : ChunkRequest) :
    (cells.respond request).1 = (accumulator.respond request).1 ∧
      (cells.respond request).2.Stores (accumulator.respond request).2 := by
  cases request with
  | push samples => exact ⟨congrArg ChunkReply.taken (stores.taken samples), stores.push samples⟩
  | drain => exact ⟨congrArg ChunkReply.drained stores.held, stores.drained⟩

/-- **Cells answer like the accumulator** whose samples they store, for as long as one likes. -/
theorem exchange (stores : cells.Stores accumulator) (requests : List ChunkRequest) :
    (exchange Cells.respond cells requests).1 =
        (exchange Accumulator.respond accumulator requests).1 ∧
      (exchange Cells.respond cells requests).2.Stores
        (exchange Accumulator.respond accumulator requests).2 := by
  induction requests generalizing cells accumulator with
  | nil => exact ⟨rfl, stores⟩
  | cons request requests ih =>
    obtain ⟨reply, next⟩ := stores.respond request
    obtain ⟨replies, last⟩ := ih next
    simp only [Audio.exchange]
    exact ⟨by rw [reply, replies], last⟩

end Stores

end Cells

/-! ## What an accumulator is -/

/-- **An accumulator is a bounded queue**, and so are the cells it lies in.  Pushes and drains may
come in any order.  All samples that were handed out, and behind them those that are held, are the
samples that pushes have taken.  Every push takes as many samples as there is room for, up to the
requested size, or one if that is zero.  The cells give the same answers and store the same
samples.  When they are drained, what they have in them makes no difference to any later answer:
it is the answer of a new accumulator. -/
theorem chunks_are_queued (request : Nat) (requests : List ChunkRequest) :
    let new := Accumulator.ofRequest request
    let run := exchange Accumulator.respond new requests
    let cells := exchange Cells.respond (.ofRequest request) requests
    run.1.flatMap drainedBy ++ run.2.held = run.1.flatMap takenBy ∧
      (∀ before samples after, requests = before ++ .push samples :: after →
        let held := (exchange Accumulator.respond new before).2.held
        run.1[before.length]? = some (.push samples,
          .taken (min (max request 1 - held.length) samples.length))) ∧
      run.2.held.length ≤ max request 1 ∧ run.2.capacity = max request 1 ∧
      cells.1 = run.1 ∧ cells.2.held = run.2.held ∧ cells.2.row.length = max request 1 ∧
      ∀ recent, (exchange Cells.respond cells.2.drained recent).1 =
        (exchange Accumulator.respond new recent).1 := by
  intro new run cells
  have size : run.2.capacity = max request 1 := Accumulator.exchange_capacity new requests
  obtain ⟨replies, stores⟩ := (Cells.stores_ofRequest request).exchange requests
  refine ⟨Accumulator.drainedIn_append_held new requests, ?_, size ▸ run.2.fits, size, replies,
    stores.held, stores.size.trans size, fun recent => ?_⟩
  · rintro before samples after rfl held
    have room : (exchange Accumulator.respond new before).2.room =
        max request 1 - held.length := by
      rw [Accumulator.room, Accumulator.exchange_capacity]
      rfl
    have place := length_exchange Accumulator.respond new before
    simp only [run, exchange_append, exchange]
    rw [List.getElem?_append_right (Nat.le_of_eq place), place, Nat.sub_self,
      List.getElem?_cons_zero, Accumulator.respond, Accumulator.taken, room]
  · rw [(stores.drained.exchange recent).1, Accumulator.drained_eq_ofRequest size]

end LiveSpeech.Audio
