import LiveSpeech.Proofs.Reference

/-!
# How long a stream is

A flush goes round by round: the frames that wait are filled up with zeros to a block, the
converter takes the block in, and as long as frames are missing there is another round
(`Drain.Ends`).  A round may bring no frame at all, because a converter answers only when a whole
stretch of input is there.  What goes down from round to round is the number of blocks that are
still needed (`blocksFor_process`); so there is a last round, and what the rounds pass on is what
`Resampler.flush` answers with (`Drain.ends`).

From that the length of a whole stream can be told.  The frames that have been passed on before
the flush never exceed what the samples call for (`length_feed_le`), and the flush brings what is
missing (`flush_of_counted`), if the frame that it ends at can be counted in words at all.
-/

namespace LiveSpeech.Audio

set_option autoImplicit false

open Resampler

/-! ## Rounds -/

/-- A flush under way. -/
structure Drain where
  converter : Converter
  /-- The frames that begin the next block. -/
  pending : List Float32
  /-- The frames that the converter has answered with. -/
  produced : Nat
  /-- The frames that the flush has passed on. -/
  passed : List Float32

/-- One round of a flush that ends at frame `target`: a block of the frames that wait, filled up
with zeros. -/
def Drain.round (target : Nat) (drain : Drain) : Drain :=
  let block := drain.pending ++ List.replicate (blockSize - drain.pending.length) 0.0
  let (frames, next) := drain.converter.process block
  { converter := next
    pending := []
    produced := drain.produced + frames.length
    passed := drain.passed ++ emit drain.converter.delay (some target) drain.produced frames }

/-- Rounds one after the other, as long as frames are missing; and what they leave when there are
enough. -/
inductive Drain.Ends (target : Nat) : Drain → Drain → Prop where
  | enough {drain : Drain} (reached : target ≤ drain.produced) : Ends target drain drain
  | round {drain last : Drain} (missing : drain.produced < target)
      (others : Ends target (drain.round target) last) : Ends target drain last

/-- What lies behind the first of the blocks of a flush. -/
theorem paddedBlocks_succ (frames : List Float32) (count : Nat) :
    paddedBlocks frames (count + 1) =
      (frames ++ List.replicate (blockSize - frames.length) 0.0) :: paddedBlocks [] count := by
  cases count with
  | zero => rfl
  | succ count => simp [paddedBlocks, List.replicate_succ]

/-- A block that is taken in is one block less that is needed. -/
theorem blocksFor_process {converter : Converter} (filled : 0 < converter.kind.span.input)
    (yields : 0 < converter.kind.span.output) {block : List Float32}
    (whole : block.length = blockSize) {missing : Nat} (some : 0 < missing) :
    let next := converter.process block
    blocksFor converter missing = blocksFor next.2 (missing - next.1.length) + 1 := by
  intro next
  have short := Converter.waiting_lt filled
  have same : next.2.kind = converter.kind := rfl
  obtain ⟨frames, waits⟩ := Converter.length_process converter block
  rw [whole] at frames waits
  set waiting := converter.waiting + blockSize
  -- What both sides need is compared with an arbitrary number of blocks.
  have fewer (count : Nat) : blocksFor converter missing ≤ count + 1 ↔
      blocksFor next.2 (missing - next.1.length) ≤ count := by
    rw [blocksFor_le_iff filled yields, blocksFor_le_iff (same ▸ filled) (same ▸ yields), same,
      frames, waits, Nat.sub_le_iff_le_add', ← Nat.add_mul]
    have parts : converter.waiting + (count + 1) * blockSize =
        waiting % converter.kind.span.input + count * blockSize +
          converter.kind.span.input * (waiting / converter.kind.span.input) := by
      have split := Nat.mod_add_div waiting converter.kind.span.input
      rw [Nat.succ_mul]
      omega
    rw [parts, Nat.add_mul_div_left _ _ filled, Nat.add_comm (waiting / _)]
  have needed : ¬blocksFor converter missing ≤ 0 := by
    rw [blocksFor_le_iff filled yields, Nat.zero_mul, Nat.add_zero, Nat.div_eq_of_lt short,
      Nat.zero_mul]
    omega
  have below := (fewer _).mpr (Nat.le_refl (blocksFor next.2 (missing - next.1.length)))
  have above := (fewer (blocksFor converter missing - 1)).mp (by omega)
  omega

/-- **The rounds of a flush come to an end**, and what they pass on are the frames of as many
blocks as are needed. -/
theorem Drain.ends (target : Nat) {count : Nat} {drain : Drain}
    (filled : 0 < drain.converter.kind.span.input) (yields : 0 < drain.converter.kind.span.output)
    (room : drain.pending.length ≤ blockSize)
    (needed : blocksFor drain.converter (target - drain.produced) = count) :
    ∃ last, Drain.Ends target drain last ∧
      last.passed = drain.passed ++ (runBlocks (some target) drain.converter drain.produced
        (paddedBlocks drain.pending count)).1 := by
  induction count generalizing drain with
  | zero =>
    have none := (blocksFor_le_iff filled yields _ 0).mp needed.le
    rw [Nat.zero_mul, Nat.add_zero, Nat.div_eq_of_lt (Converter.waiting_lt filled),
      Nat.zero_mul] at none
    exact ⟨drain, .enough (by omega), (List.append_nil _).symm⟩
  | succ count ih =>
    have missing : drain.produced < target := by
      by_contra reached
      have enough := (blocksFor_le_iff filled yields 0 0).mpr (Nat.zero_le _)
      rw [Nat.sub_eq_zero_of_le (Nat.le_of_not_lt reached)] at needed
      omega
    let block := drain.pending ++ List.replicate (blockSize - drain.pending.length) 0.0
    have whole : block.length = blockSize := by
      rw [List.length_append, List.length_replicate]
      omega
    have same : (drain.round target).converter.kind = drain.converter.kind := rfl
    have fewer : blocksFor (drain.round target).converter
        (target - (drain.round target).produced) = count := by
      have step := blocksFor_process filled yields whole (Nat.sub_pos_of_lt missing)
      dsimp only at step
      rw [needed, Nat.sub_sub] at step
      exact (Nat.succ.inj step).symm
    obtain ⟨last, others, passed⟩ := ih (same ▸ filled) (same ▸ yields) (Nat.zero_le _) fewer
    refine ⟨last, .round missing others, ?_⟩
    rw [passed, paddedBlocks_succ]
    simp only [round, runBlocks, List.append_assoc]

/-! ## What a flush passes on -/

/-- The rounds of a flush end, and they pass on these frames.  Between equal rates there is nothing
to flush. -/
def Resampler.Drains (resampler : Resampler) (frames : List Float32) : Prop :=
  match resampler.converter with
  | none => frames = []
  | some converter => ∃ target last, resampler.target converter = .ok target ∧
      Drain.Ends target ⟨converter, resampler.pending, resampler.framesOut, []⟩ last ∧
      frames = last.passed

section Streams

variable {kind : Transducer} {given wanted : Nat}

/-- The resampler behind a flush is as it was made. -/
theorem renewed_fed (distinct : given ≠ wanted) (samples : List Float32) :
    (fed kind given wanted samples).renewed
      ((Converter.ofKind kind).run (completeBlocks samples)).2 = ofHertz kind given wanted := by
  simp only [renewed, fed, ofHertz, start, if_neg distinct, Converter.reset, Converter.run_ofKind]

/-- **A flush that is answered** is answered with what its rounds pass on, and behind it the
resampler is as it was made. -/
theorem flush_eq_ok (fits : given ≠ wanted → kind.Fits given wanted)
    {samples frames : List Float32} {next : Resampler}
    (answered : ((ofHertz kind given wanted).feed samples).2.flush = .ok (frames, next)) :
    ((ofHertz kind given wanted).feed samples).2.Drains frames ∧
      next = ofHertz kind given wanted := by
  by_cases equal : given = wanted
  · subst equal
    have passes : (ofHertz kind given given).converter = none := if_pos rfl
    rw [feed_equal, flush_equal] at answered
    obtain ⟨rfl, rfl⟩ := Prod.ext_iff.mp (Except.ok.inj answered)
    refine ⟨?_, rfl⟩
    simp only [Drains, feed_equal, passes]
  · rw [feed_new equal] at answered ⊢
    set taken := fed kind given wanted samples
    let converter := ((Converter.ofKind kind).run (completeBlocks samples)).2
    have same : converter.kind = kind := Converter.run_ofKind ..
    have converts : taken.converter = some converter := rfl
    rw [flush_eq converts] at answered
    obtain ⟨target, told, result⟩ := map_eq_ok.mp answered
    obtain ⟨rfl, rfl⟩ := Prod.ext_iff.mp result
    refine ⟨?_, renewed_fed equal samples⟩
    have room : taken.pending.length ≤ blockSize := length_incompleteBlock_le samples
    obtain ⟨last, ends, passed⟩ :=
      @Drain.ends target _ ⟨converter, taken.pending, taken.framesOut, []⟩
        (same ▸ (fits equal).filled) (same ▸ (fits equal).yields) room rfl
    simp only [Drains, converts]
    exact ⟨target, last, told, ends, passed.symm⟩

/-! ## Calls in a row -/

/-- Calls in two parts are answered if the first part is, and then the second. -/
theorem resampleAll_append_eq_ok {resampler final : Resampler} {output : List Float32}
    {first second : List (List Float32 × Bool)} :
    resampler.resampleAll (first ++ second) = .ok (output, final) ↔
      ∃ before next more, resampler.resampleAll first = .ok (before, next) ∧
        next.resampleAll second = .ok (more, final) ∧ output = before ++ more := by
  rw [resampleAll_append, bind_eq_ok]
  simp only [bind_eq_ok, Prod.exists]
  constructor
  · rintro ⟨before, next, ran, more, last, others, result⟩
    obtain ⟨rfl, rfl⟩ := Prod.ext_iff.mp (Except.ok.inj result)
    exact ⟨before, next, more, ran, others, rfl⟩
  · rintro ⟨before, next, more, ran, others, rfl⟩
    exact ⟨before, next, ran, more, final, others, rfl⟩

theorem resampleAll_single (resampler : Resampler) (fragment : List Float32) (last : Bool) :
    resampler.resampleAll [(fragment, last)] = resampler.resample fragment last := by
  simp only [resampleAll]
  cases resampler.resample fragment last with
  | error why => rfl
  | ok result =>
    simp only [ok_bind, List.append_nil]
    rfl

/-- A call that ends a stream is answered if the flush is. -/
theorem resample_ended_eq_ok {resampler final : Resampler} {fragment output : List Float32} :
    resampler.resample fragment true = .ok (output, final) ↔
      ∃ others, (resampler.feed fragment).2.flush = .ok (others, final) ∧
        output = (resampler.feed fragment).1 ++ others := by
  simp only [resample, if_true, map_eq_ok]
  constructor
  · rintro ⟨⟨others, fresh⟩, flushed, result⟩
    obtain ⟨rfl, rfl⟩ := Prod.ext_iff.mp result
    exact ⟨others, flushed, rfl⟩
  · rintro ⟨others, flushed, rfl⟩
    exact ⟨(others, final), flushed, rfl⟩

/-- Between calls a resampler is one that was fed with some samples since it was made. -/
theorem exists_fed (fits : given ≠ wanted → kind.Fits given wanted)
    {calls : List (List Float32 × Bool)} {output : List Float32} {next : Resampler}
    (answered : (ofHertz kind given wanted).resampleAll calls = .ok (output, next)) :
    ∃ samples, next = ((ofHertz kind given wanted).feed samples).2 := by
  have unfed : ((ofHertz kind given wanted).feed []).2 = ofHertz kind given wanted :=
    (congrArg Prod.snd (feedAll_new kind given wanted [])).symm
  induction calls using List.reverseRecOn generalizing output next with
  | nil =>
    obtain ⟨-, rfl⟩ := Prod.ext_iff.mp (Except.ok.inj answered)
    exact ⟨[], unfed.symm⟩
  | append_singleton calls call ih =>
    obtain ⟨fragment, last⟩ := call
    obtain ⟨before, middle, more, ran, called, -⟩ := resampleAll_append_eq_ok.mp answered
    obtain ⟨samples, rfl⟩ := ih ran
    have taken := congrArg Prod.snd (feed_append (ofHertz kind given wanted) samples fragment)
    rw [resampleAll_single] at called
    cases last with
    | false =>
      obtain ⟨-, rfl⟩ := Prod.ext_iff.mp (Except.ok.inj called)
      exact ⟨samples ++ fragment, taken.symm⟩
    | true =>
      obtain ⟨others, flushed, -⟩ := resample_ended_eq_ok.mp called
      rw [← taken] at flushed
      exact ⟨[], (flush_eq_ok fits flushed).2.trans unfed.symm⟩

/-- Behind calls the last of which has ended a stream, the resampler is as it was made. -/
theorem resampleAll_renews (fits : given ≠ wanted → kind.Fits given wanted)
    {calls : List (List Float32 × Bool)}
    (ended : ∀ call ∈ calls.getLast?, call.2 = true) {output : List Float32} {next : Resampler}
    (answered : (ofHertz kind given wanted).resampleAll calls = .ok (output, next)) :
    next = ofHertz kind given wanted := by
  rcases List.eq_nil_or_concat' calls with rfl | ⟨calls, ⟨fragment, last⟩, rfl⟩
  · exact (Prod.ext_iff.mp (Except.ok.inj answered)).2.symm
  · obtain rfl : last = true := ended (fragment, last) (by simp)
    obtain ⟨before, middle, more, ran, called, -⟩ := resampleAll_append_eq_ok.mp answered
    obtain ⟨samples, rfl⟩ := exists_fed fits ran
    rw [resampleAll_single] at called
    obtain ⟨others, flushed, -⟩ := resample_ended_eq_ok.mp called
    rw [← congrArg Prod.snd (feed_append (ofHertz kind given wanted) samples fragment)] at flushed
    exact (flush_eq_ok fits flushed).2

/-! ## How many frames there are -/

/-- Between equal rates as many frames are due as there are samples. -/
theorem dueFrames_equal (positive : 0 < given) (samples : Nat) :
    dueFrames samples given given = samples := by
  rw [dueFrames, Nat.add_comm, Nat.add_mul_div_right _ _ positive,
    Nat.div_eq_of_lt (Nat.div_lt_self positive Nat.one_lt_two), Nat.zero_add]

/-- What has been passed on before a flush is not more than is due. -/
theorem length_feed_le (fits : given ≠ wanted → kind.Fits given wanted)
    (positive : 0 < given) (samples : List Float32) :
    ((ofHertz kind given wanted).feed samples).1.length ≤
      dueFrames samples.length given wanted := by
  by_cases equal : given = wanted
  · subst equal
    rw [feed_equal, dueFrames_equal positive]
  · rw [feed_new equal, converted, List.length_drop]
    calc _ ≤ ((Converter.ofKind kind).run (completeBlocks samples)).1.length := Nat.sub_le ..
      _ ≤ samples.length * wanted / given := length_run_le (fits equal) samples positive
      _ ≤ dueFrames samples.length given wanted := Nat.div_le_div_right (Nat.le_add_right ..)

/-- **A flush is answered** if the frame that it ends at can be counted in words, and then the
whole stream has as many frames as are due. -/
theorem flush_of_counted (fits : given ≠ wanted → kind.Fits given wanted)
    (positive : 0 < given) {samples : List Float32}
    (countable : given = wanted ∨ Counted kind given wanted samples.length) :
    let taken := (ofHertz kind given wanted).feed samples
    ∃ frames next, taken.2.flush = .ok (frames, next) ∧
      (taken.1 ++ frames).length = dueFrames samples.length given wanted := by
  intro taken
  by_cases equal : given = wanted
  · subst equal
    refine ⟨[], ofHertz kind given given, ?_, ?_⟩
    · have same : taken.2 = ofHertz kind given given := congrArg Prod.snd (feed_equal ..)
      rw [same, flush_equal]
    · rw [List.append_nil, dueFrames_equal positive]
      exact congrArg (List.length ∘ Prod.fst) (feed_equal kind given samples)
  · have counted := countable.resolve_left equal
    set due := dueFrames samples.length given wanted
    obtain ⟨zeros, filled, enough⟩ := exists_zeros (fits equal) samples due
    have atLeast : samples.length * wanted / given ≤ due :=
      Nat.div_le_div_right (Nat.le_add_right ..)
    have whole := stream_eq_take (fits equal) positive atLeast filled enough
    have took : taken = (converted kind samples, fed kind given wanted samples) :=
      feed_new equal samples
    have flushed := @flush_eq (fed kind given wanted samples) _ rfl
    rw [target_of_counted (Converter.run_ofKind ..) counted] at flushed
    rw [took]
    refine ⟨_, _, flushed, ?_⟩
    exact (congrArg List.length whole).trans
      ((List.length_take ..).trans (Nat.min_eq_left enough))

end Streams

/-- **How long a stream is.**  A stream begins when a resampler is made or behind the flush of the
stream before, and comes in fragments, with a flush behind the last one.  Before the flush no more
frames than are due have been passed on, and between different rates the samples that wait are
those that do not fill a block.  The rounds of the flush end, and after them exactly the frames
that are due have been passed on; but if their number cannot be counted in words, the flush breaks
off. -/
theorem flushed_stream_length {World : Type} {outside : Collaborators World} {world : World}
    {inputRate outputRate : Float32} {given wanted : Nat} {kind : Transducer}
    (accepts : wholeHertz inputRate = .ok given) (yields : wholeHertz outputRate = .ok wanted)
    (converts : Converts outside world given wanted kind) :
    ∃ resampler, (makeResampler outside inputRate outputRate world).answer = .ok resampler ∧
      ∀ earlier output start, (∀ call ∈ earlier.getLast?, call.2 = true) →
        resampler.resampleAll earlier = .ok (output, start) →
        ∀ (fragments : List (List Float32)) (last : List Float32),
          let calls := fragments.map (·, false)
          let samples := (fragments.flatten ++ last).length
          let due := dueFrames samples given wanted
          due = round ((samples * wanted : ℚ) / given) ∧
          ∃ before middle, start.resampleAll calls = .ok (before, middle) ∧
            let taken := middle.feed last
            before.length + taken.1.length ≤ due ∧
            (given ≠ wanted → taken.2.pending.length = samples % blockSize) ∧
            (given = wanted ∨ Counted kind given wanted samples →
              ∃ frames next, taken.2.Drains frames ∧
                start.resampleAll (calls ++ [(last, true)]) =
                  .ok (before ++ taken.1 ++ frames, next) ∧
                (before ++ taken.1 ++ frames).length = due) ∧
            (given ≠ wanted → ¬Counted kind given wanted samples → ∃ operation,
              start.resampleAll (calls ++ [(last, true)]) = .error (.overflow operation)) := by
  have positive := (hertz_bounds accepts).1
  have fits (distinct : given ≠ wanted) := (converts distinct).2
  refine ⟨_, makeResampler_answer accepts yields converts, fun earlier output start ended ran => ?_⟩
  obtain rfl := resampleAll_renews fits ended ran
  intro fragments last calls samples due
  refine ⟨(round_eq_div positive samples).symm, _, _, resampleAll_open _ fragments, ?_⟩
  rw [feedAll_new]
  set before := (ofHertz kind given wanted).feed fragments.flatten
  intro taken
  -- What the calls have passed on before the flush is what the samples at once come to.
  have fed : (ofHertz kind given wanted).feed (fragments.flatten ++ last) =
      (before.1 ++ taken.1, taken.2) :=
    feed_append (ofHertz kind given wanted) fragments.flatten last
  have whole := resampleAll_ended kind given wanted fragments last
  have early := length_feed_le fits positive (fragments.flatten ++ last)
  rw [fed] at whole early
  rw [List.length_append] at early
  refine ⟨early, fun distinct => ?_, fun countable => ?_, fun distinct uncounted => ?_⟩
  · rw [feed_new distinct] at fed
    rw [← (Prod.ext_iff.mp fed).2]
    exact length_incompleteBlock (fragments.flatten ++ last)
  · obtain ⟨frames, next, flushed, length⟩ := flush_of_counted fits positive countable
    obtain ⟨drains, -⟩ := flush_eq_ok fits flushed
    rw [fed] at flushed length drains
    exact ⟨frames, next, drains, whole.trans (by rw [flushed]; rfl), length⟩
  · obtain ⟨operation, broken⟩ := target_of_not_counted (Converter.run_ofKind ..) uncounted
    exact ⟨operation, by rw [resampleAll_distinct distinct, broken]; rfl⟩

/-- Behind a stream of one sample, three samples at two hertz are two frames at one hertz. -/
theorem flushed_stream_length_small :
    let outside := (Rehearsal.smallScript none []).collaborators
    ∃ resampler, (makeResampler outside 2.0 1.0 .initial).answer = .ok resampler ∧
      ∃ output start, resampler.resampleAll [([0.5], true)] = .ok (output, start) ∧
        ∃ frames next, start.resampleAll [([0.5, 0.25], false), ([1.0], true)] =
          .ok (frames, next) ∧ frames.length = 2 := by
  intro outside
  have accepts : wholeHertz 2.0 = .ok 2 := eq_ok_of_toOption (by decide +kernel)
  have yields : wholeHertz 1.0 = .ok 1 := eq_ok_of_toOption (by decide +kernel)
  have made : makeTransducer 2 1 = .ok _ :=
    makeTransducer_eq_ok (by decide +kernel) (by decide +kernel) (by decide +kernel)
  obtain ⟨resampler, starts, streams⟩ :=
    @flushed_stream_length _ outside .initial _ _ _ _ _ accepts yields
      fun _ => ⟨made, makeTransducer_fits (by decide) (by decide) made⟩
  have one : Counted (Plan.ofSpan (.ofRates 2 1)).transducer 2 1 1 :=
    ⟨by decide +kernel, by decide +kernel⟩
  have three : Counted (Plan.ofSpan (.ofRates 2 1)).transducer 2 1 3 :=
    ⟨by decide +kernel, by decide +kernel⟩
  obtain ⟨-, before, middle, first, -, -, ended, -⟩ :=
    streams [] [] resampler (by simp) rfl [] [0.5]
  obtain ⟨frames, start, -, ran, -⟩ := ended (.inr one)
  refine ⟨resampler, starts, _, _, ran, ?_⟩
  obtain ⟨-, before, middle, -, -, -, ended, -⟩ :=
    streams [([0.5], true)] _ start (by simp) ran [[0.5, 0.25]] [1.0]
  obtain ⟨frames, next, -, ran, length⟩ := ended (.inr three)
  exact ⟨_, next, ran, length⟩

/-- Sixteen samples at `1025 * 2 ^ 50` hertz call for sixteen frames at `1023 * 2 ^ 50` hertz.  The
product of the samples and the rate fits in a word, but half of the other rate is added to it, and
no word tells the sum: the flush breaks off. -/
theorem flush_breaks_off_at_sum :
    let outside := (Rehearsal.smallScript none []).collaborators
    let samples : List Float32 := List.replicate 16 0.0
    let given : Nat := 1154047404513689600
    let wanted : Nat := 1151795604700004352
    ∃ kind resampler, makeTransducer given wanted = .ok kind ∧
      (makeResampler outside 1154047404513689600.0 1151795604700004352.0 .initial).answer =
        .ok resampler ∧
      resampler.resampleAll [(samples, true)] = .error (.overflow "add") ∧
      samples.length * wanted < wordLimit ∧ dueFrames samples.length given wanted = 16 := by
  intro outside samples given wanted
  have accepts : wholeHertz 1154047404513689600.0 = .ok given :=
    eq_ok_of_toOption (by decide +kernel)
  have yields : wholeHertz 1151795604700004352.0 = .ok wanted :=
    eq_ok_of_toOption (by decide +kernel)
  have made : makeTransducer given wanted = .ok _ :=
    makeTransducer_eq_ok (by decide +kernel) (by decide +kernel) (by decide +kernel)
  have product : samples.length * wanted < wordLimit := by decide +kernel
  have exceeds : wordLimit ≤ samples.length * wanted + given / 2 := by decide +kernel
  have fits := makeTransducer_fits (by decide) (by decide) made
  refine ⟨_, _, made, makeResampler_answer accepts yields fun _ => ⟨made, fits⟩, ?_, product,
    by decide +kernel⟩
  rw [show [(samples, true)] = [].map (·, false) ++ [(samples, true)] from rfl,
    resampleAll_distinct (by decide), List.flatten_nil, List.nil_append,
    target_fed (Converter.run_ofKind ..), inWordOf_of_lt product, ok_bind, inWordOf_of_le exceeds]
  rfl

end LiveSpeech.Audio
