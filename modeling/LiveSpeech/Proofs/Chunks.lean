import LiveSpeech.Audio.Accumulator

/-!
# Cutting a stretch of samples into chunks

Cutting loses nothing and adds nothing: the chunks and what is left over are the samples held
before and the new ones, in order (`Accumulator.cut_flatten`).  All chunks have the same size,
and what is left over is no chunk yet, so that a stretch of samples determines how many chunks
it yields (`Accumulator.cut_count`).

Where a stretch is divided makes no difference to its chunks (`Accumulator.cut_append`).
-/

namespace LiveSpeech.Audio.Accumulator

set_option autoImplicit false

/-- Accumulators of one capacity that hold the same samples are equal. -/
theorem eq_of_held {first second : Accumulator} (capacity : first.capacity = second.capacity)
    (held : first.held = second.held) : first = second := by
  cases first
  cases second
  cases capacity
  cases held
  rfl

theorem cut_nil (accumulator : Accumulator) : accumulator.cut [] = ([], accumulator) := by
  rw [cut]
  rfl

theorem cut_of_full {accumulator : Accumulator} {samples : List Float32} (some : samples ≠ [])
    (full : (accumulator.push samples).isFull = true) :
    accumulator.cut samples =
      ((accumulator.push samples).held ::
          (accumulator.drained.cut (samples.drop accumulator.room)).1,
        (accumulator.drained.cut (samples.drop accumulator.room)).2) := by
  rw [cut, if_neg (by simpa using some), dif_pos full]

theorem cut_of_not_full {accumulator : Accumulator} {samples : List Float32}
    (open_ : (accumulator.push samples).isFull ≠ true) :
    accumulator.cut samples = ([], accumulator.push samples) := by
  by_cases none : samples = []
  · subst none
    rw [cut_nil]
    refine Prod.ext rfl (eq_of_held rfl ?_)
    simp
  · rw [cut, if_neg (by simpa using none), dif_neg open_]

/-- Induction along the cutting: no samples are left, or they complete the chunk and the rest is
cut after it, or they do not complete it. -/
@[elab_as_elim] theorem cut_induction {motive : Accumulator → List Float32 → Prop}
    (empty : ∀ accumulator, motive accumulator [])
    (complete : ∀ accumulator samples, samples ≠ [] →
      (accumulator.push samples).isFull = true →
      motive accumulator.drained (samples.drop accumulator.room) → motive accumulator samples)
    (incomplete : ∀ accumulator samples,
      (accumulator.push samples).isFull ≠ true → motive accumulator samples)
    (accumulator : Accumulator) (samples : List Float32) : motive accumulator samples := by
  induction accumulator, samples using cut.induct with
  | case1 accumulator samples none =>
    rw [List.isEmpty_iff.mp none]
    exact empty accumulator
  | case2 accumulator samples some full _ _ _ ih =>
    exact complete accumulator samples (by simpa using some) full ih
  | case3 accumulator samples _ notFull => exact incomplete accumulator samples notFull

/-- Samples that do not complete the chunk are no more than there is room for. -/
theorem length_lt_room {accumulator : Accumulator} {samples : List Float32}
    (notFull : (accumulator.push samples).isFull ≠ true) : samples.length < accumulator.room := by
  have fits := (accumulator.push samples).fits
  have incomplete := mt (isFull_iff _).mpr notFull
  simp only [push_held, push_capacity, List.length_append, List.length_take, room]
    at fits incomplete ⊢
  omega

/-- The chunks and what is left over are all samples in order. -/
theorem cut_flatten (accumulator : Accumulator) (samples : List Float32) :
    (accumulator.cut samples).1.flatten ++ (accumulator.cut samples).2.held =
      accumulator.held ++ samples := by
  induction accumulator, samples using cut_induction with
  | empty accumulator => simp [cut_nil]
  | complete accumulator samples some full ih =>
    rw [cut_of_full some full]
    simp only [List.flatten_cons, List.append_assoc, ih, push_held, drained_held, List.nil_append,
      List.take_append_drop]
  | incomplete accumulator samples notFull =>
    rw [cut_of_not_full notFull]
    simp [List.take_of_length_le (Nat.le_of_lt (length_lt_room notFull))]

/-- Every chunk is complete. -/
theorem length_of_mem_cut (accumulator : Accumulator) (samples : List Float32) :
    ∀ chunk ∈ (accumulator.cut samples).1, chunk.length = accumulator.capacity := by
  induction accumulator, samples using cut_induction with
  | empty accumulator => simp [cut_nil]
  | complete accumulator samples some full ih =>
    rw [cut_of_full some full]
    intro chunk member
    rcases List.mem_cons.mp member with rfl | later
    · exact (isFull_iff _).mp full
    · exact ih chunk later
  | incomplete accumulator samples notFull => simp [cut_of_not_full notFull]

theorem cut_capacity (accumulator : Accumulator) (samples : List Float32) :
    (accumulator.cut samples).2.capacity = accumulator.capacity := by
  induction accumulator, samples using cut_induction with
  | empty accumulator => rw [cut_nil]
  | complete accumulator samples some full ih =>
    rw [cut_of_full some full]
    exact ih
  | incomplete accumulator samples notFull =>
    rw [cut_of_not_full notFull]
    rfl

/-- What is left over is no chunk yet. -/
theorem cut_open {accumulator : Accumulator}
    (room : accumulator.held.length < accumulator.capacity) (samples : List Float32) :
    (accumulator.cut samples).2.held.length < accumulator.capacity := by
  induction accumulator, samples using cut_induction with
  | empty accumulator => rwa [cut_nil]
  | complete accumulator samples some full ih =>
    rw [cut_of_full some full]
    exact ih (by simpa using accumulator.positive)
  | incomplete accumulator samples notFull =>
    rw [cut_of_not_full notFull]
    have few := length_lt_room notFull
    simp only [push_held, List.length_append, List.length_take, Accumulator.room] at few ⊢
    omega

/-- Chunks of one size have as many samples as that size times their number. -/
theorem length_flatten_of_mem {capacity : Nat} {chunks : List (List Float32)}
    (all : ∀ chunk ∈ chunks, chunk.length = capacity) :
    chunks.flatten.length = chunks.length * capacity := by
  have sizes : chunks.map List.length = List.replicate chunks.length capacity :=
    List.eq_replicate_iff.mpr ⟨by simp, by simpa using all⟩
  simp [List.length_flatten, sizes]

/-- The chunks and what is left over have as many samples as there were. -/
theorem cut_length (accumulator : Accumulator) (samples : List Float32) :
    (accumulator.cut samples).1.length * accumulator.capacity +
        (accumulator.cut samples).2.held.length =
      accumulator.held.length + samples.length := by
  have all := congrArg List.length (cut_flatten accumulator samples)
  rwa [List.length_append, List.length_append,
    length_flatten_of_mem (length_of_mem_cut accumulator samples)] at all

/-- **An empty accumulator yields as many chunks as fit into the samples, and keeps the
remainder.** -/
theorem cut_count {accumulator : Accumulator} (empty : accumulator.held = [])
    (samples : List Float32) :
    (accumulator.cut samples).1.length = samples.length / accumulator.capacity ∧
      (accumulator.cut samples).2.held.length = samples.length % accumulator.capacity := by
  have positive := accumulator.positive
  have room : accumulator.held.length < accumulator.capacity := by simpa [empty] using positive
  have left := cut_open room samples
  have total := cut_length accumulator samples
  rw [empty, List.length_nil, Nat.zero_add, Nat.mul_comm] at total
  refine ⟨?_, ?_⟩
  · rw [← total, Nat.mul_add_div positive, Nat.div_eq_of_lt left, Nat.add_zero]
  · rw [← total, Nat.mul_add_mod, Nat.mod_eq_of_lt left]

/-! ## A stretch in two parts -/

theorem room_push {accumulator : Accumulator} {samples : List Float32}
    (few : samples.length ≤ accumulator.room) :
    (accumulator.push samples).room = accumulator.room - samples.length := by
  simp only [room, push_held, push_capacity, List.length_append, List.length_take] at few ⊢
  omega

/-- Pushing two stretches is pushing them as one. -/
theorem push_push {accumulator : Accumulator} {first : List Float32}
    (few : first.length ≤ accumulator.room) (second : List Float32) :
    (accumulator.push first).push second = accumulator.push (first ++ second) := by
  refine eq_of_held rfl ?_
  rw [push_held, room_push few, push_held, push_held, List.take_of_length_le few,
    List.append_assoc, List.take_append, List.take_of_length_le few]

/-- Samples beyond the room are not pushed. -/
theorem push_append {accumulator : Accumulator} {first : List Float32}
    (enough : accumulator.room ≤ first.length) (second : List Float32) :
    accumulator.push (first ++ second) = accumulator.push first :=
  eq_of_held rfl (by rw [push_held, push_held, List.take_append_of_le_length enough])

/-- A push that completes the chunk has used up the room. -/
theorem room_le_length {accumulator : Accumulator} {samples : List Float32}
    (full : (accumulator.push samples).isFull = true) : accumulator.room ≤ samples.length := by
  have complete := (isFull_iff _).mp full
  simp only [push_held, push_capacity, List.length_append, List.length_take, room]
    at complete ⊢
  omega

/-- **Where a stretch is divided makes no difference to its chunks.** -/
theorem cut_append (accumulator : Accumulator) (first second : List Float32) :
    accumulator.cut (first ++ second) =
      ((accumulator.cut first).1 ++ ((accumulator.cut first).2.cut second).1,
        ((accumulator.cut first).2.cut second).2) := by
  induction accumulator, first using cut_induction with
  | empty accumulator => simp [cut_nil]
  | complete accumulator first some full ih =>
    have enough := room_le_length full
    have same := push_append enough second
    rw [cut_of_full some full, cut_of_full (by simp [some]) (by rwa [same]), same,
      List.drop_append_of_le_length enough, ih]
    rfl
  | incomplete accumulator first notFull =>
    have few := Nat.le_of_lt (length_lt_room notFull)
    have same := push_push few second
    rw [cut_of_not_full notFull]
    by_cases none : second = []
    · subst none
      rw [List.append_nil, cut_of_not_full notFull, cut_nil]
      rfl
    · by_cases full : ((accumulator.push first).push second).isFull = true
      · have rest : (first ++ second).drop accumulator.room =
            second.drop (accumulator.push first).room := by
          rw [List.drop_append, List.drop_eq_nil_of_le few, room_push few, List.nil_append]
        rw [cut_of_full none full, cut_of_full (by simp [none]) (by rwa [← same]), ← same, rest]
        rfl
      · rw [cut_of_not_full full, cut_of_not_full (by rwa [← same]), ← same]
        rfl

end LiveSpeech.Audio.Accumulator
