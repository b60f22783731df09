import LiveSpeech.Proofs.Flushing

/-!
# Streams one after the other

The rounds of a flush leave a lot behind: input that waits in the converter, the half of its last
result that overlaps the next one, and counts.  Then the converter is reset, and the resampler
forgets the frames that wait and both of its counts (`Resampler.Flushes`).

Resetting a converter keeps nothing but its kind, and no round changes that (`Drain.Ends.kind`).
So whatever the rounds were, and even if there was none, what they leave is the same
(`Resampler.Flushes.next_eq`), and that is the resampler as it was made (`flush_eq_ok`).  Every call
behind a flush is answered as if nothing had been resampled before (`flush_starts_anew`).
-/

namespace LiveSpeech.Audio

set_option autoImplicit false

open Resampler

/-! ## What a flush leaves -/

/-- The rounds of a flush do not change what kind of converter it is. -/
theorem Drain.Ends.kind {target : Nat} {drain last : Drain} (ends : Drain.Ends target drain last) :
    last.converter.kind = drain.converter.kind := by
  induction ends with
  | enough => rfl
  | round _ _ same => exact same

/-- Converters of one kind are the same when they are reset. -/
theorem Resampler.renewed_of_kind (resampler : Resampler) {converter other : Converter}
    (same : other.kind = converter.kind) :
    resampler.renewed other = resampler.renewed converter := by
  rw [renewed, renewed, Converter.reset, Converter.reset, same]

/-- **A flush** goes its rounds, passes on the frames that they bring, and resets what they leave.
Between equal rates there is nothing to flush. -/
def Resampler.Flushes (resampler : Resampler) (frames : List Float32) (next : Resampler) : Prop :=
  match resampler.converter with
  | none => frames = [] ∧ next = resampler
  | some converter => ∃ target last, resampler.target converter = .ok target ∧
      Drain.Ends target ⟨converter, resampler.pending, resampler.framesOut, []⟩ last ∧
      frames = last.passed ∧ next = resampler.renewed last.converter

/-- Whatever the rounds of a flush do to the converter, resetting it gives the same. -/
theorem Resampler.Flushes.next_eq {resampler next : Resampler} {frames : List Float32}
    (flushes : resampler.Flushes frames next) : resampler.flush.map Prod.snd = .ok next := by
  unfold Flushes at flushes
  cases converts : resampler.converter with
  | none =>
    rw [converts] at flushes
    rw [flushes.2, flush, converts]
    rfl
  | some converter =>
    rw [converts] at flushes
    obtain ⟨target, last, told, ends, -, rfl⟩ := flushes
    rw [flush_eq converts, told, resampler.renewed_of_kind ends.kind]
    rfl

/-- If the rounds of a flush end with certain frames, that is the flush. -/
theorem Resampler.Drains.flushes {resampler next : Resampler} {frames : List Float32}
    (drains : resampler.Drains frames) (answered : resampler.flush = .ok (frames, next)) :
    resampler.Flushes frames next := by
  unfold Drains at drains
  unfold Flushes
  cases converts : resampler.converter with
  | none =>
    rw [converts] at drains
    rw [flush, converts] at answered
    exact ⟨drains, (Prod.ext_iff.mp (Except.ok.inj answered)).2.symm⟩
  | some converter =>
    rw [converts] at drains
    obtain ⟨target, last, told, ends, passed⟩ := drains
    rw [flush_eq converts, told] at answered
    obtain ⟨-, rfl⟩ := Prod.ext_iff.mp (Except.ok.inj answered)
    exact ⟨target, last, told, ends, passed, (resampler.renewed_of_kind ends.kind).symm⟩

/-- The rounds of a flush end in one way only. -/
theorem Drain.Ends.unique {target : Nat} {drain last other : Drain}
    (ends : Drain.Ends target drain last) (ends' : Drain.Ends target drain other) :
    last = other := by
  induction ends with
  | enough reached =>
    cases ends' with
    | enough => rfl
    | round missing => exact absurd missing (Nat.not_lt.mpr reached)
  | round missing _ same =>
    cases ends' with
    | enough reached => exact absurd missing (Nat.not_lt.mpr reached)
    | round _ others => exact same others

/-- A resampler drains in one way only. -/
theorem Resampler.Drains.unique {resampler : Resampler} {frames other : List Float32}
    (drains : resampler.Drains frames) (drains' : resampler.Drains other) : frames = other := by
  unfold Drains at drains drains'
  cases converts : resampler.converter with
  | none =>
    rw [converts] at drains drains'
    exact drains.trans drains'.symm
  | some converter =>
    rw [converts] at drains drains'
    obtain ⟨target, last, told, ends, rfl⟩ := drains
    obtain ⟨target', last', told', ends', rfl⟩ := drains'
    obtain rfl := Except.ok.inj (told.symm.trans told')
    rw [ends.unique ends']

theorem Resampler.Flushes.drains {resampler next : Resampler} {frames : List Float32}
    (flushes : resampler.Flushes frames next) : resampler.Drains frames := by
  unfold Flushes at flushes
  unfold Drains
  cases converts : resampler.converter with
  | none =>
    rw [converts] at flushes
    exact flushes.1
  | some converter =>
    rw [converts] at flushes
    obtain ⟨target, last, told, ends, passed, -⟩ := flushes
    exact ⟨target, last, told, ends, passed⟩

section Reached

variable {kind : Transducer} {given wanted : Nat}

/-- **The answer to a flush** is what its rounds come to. -/
theorem flush_eq_ok_iff (fits : given ≠ wanted → kind.Fits given wanted)
    (samples frames : List Float32) (next : Resampler) :
    let taken := ((ofHertz kind given wanted).feed samples).2
    taken.flush = .ok (frames, next) ↔ taken.Flushes frames next := by
  intro taken
  constructor
  · intro answered
    exact (flush_eq_ok fits answered).1.flushes answered
  · intro flushes
    obtain ⟨⟨other, _⟩, answered, rfl⟩ := map_eq_ok.mp flushes.next_eq
    rw [flushes.drains.unique (flush_eq_ok fits answered).1]
    exact answered

/-- A flush breaks off if the frame that it ends at cannot be counted in words. -/
theorem flush_of_not_counted (distinct : given ≠ wanted) {samples : List Float32}
    (uncounted : ¬Counted kind given wanted samples.length) :
    ∃ operation,
      ((ofHertz kind given wanted).feed samples).2.flush = .error (.overflow operation) := by
  obtain ⟨operation, broken⟩ := target_of_not_counted (Converter.run_ofKind ..) uncounted
  refine ⟨operation, ?_⟩
  rw [feed_new distinct, flush_eq rfl, broken]
  rfl

/-- Between different rates the samples since the stream began are counted. -/
theorem framesIn_feed (distinct : given ≠ wanted) (samples : List Float32) :
    ((ofHertz kind given wanted).feed samples).2.framesIn = samples.length := by
  rw [feed_new distinct]
  rfl

end Reached

/-! ## Answers -/

/-- What calls are answered, one by one, and the resampler behind them. -/
def Resampler.answers : Resampler → List (List Float32 × Bool) →
    Except Breakdown (List (List Float32) × Resampler)
  | resampler, [] => .ok ([], resampler)
  | resampler, (fragment, last) :: others => do
    let (frames, next) ← resampler.resample fragment last
    let (more, final) ← next.answers others
    return (frames :: more, final)

theorem answers_append (resampler : Resampler) (first second : List (List Float32 × Bool)) :
    resampler.answers (first ++ second) = (do
      let (frames, next) ← resampler.answers first
      let (more, final) ← next.answers second
      return (frames ++ more, final)) := by
  induction first generalizing resampler with
  | nil =>
    rw [List.nil_append, answers, ok_bind]
    exact (bind_pure _).symm
  | cons call first ih =>
    simp only [List.cons_append, answers, ih, bind_assoc, pure_bind]

theorem answers_append_of_ok {resampler next : Resampler} {first : List (List Float32 × Bool)}
    {frames : List (List Float32)} (answered : resampler.answers first = .ok (frames, next))
    (second : List (List Float32 × Bool)) :
    resampler.answers (first ++ second) =
      (next.answers second).map fun (more, final) => (frames ++ more, final) := by
  rw [answers_append, answered, ok_bind]
  dsimp only
  cases next.answers second <;> rfl

theorem answers_ended (resampler : Resampler) (fragment : List Float32) :
    resampler.answers [(fragment, true)] =
      (resampler.feed fragment).2.flush.map fun (others, fresh) =>
        ([(resampler.feed fragment).1 ++ others], fresh) := by
  simp only [answers, resample, if_true]
  cases (resampler.feed fragment).2.flush <;> rfl

/-- The answers to calls, one behind the other, are what comes of them all in all. -/
theorem resampleAll_of_answers {resampler final : Resampler} {calls : List (List Float32 × Bool)}
    {frames : List (List Float32)} (answered : resampler.answers calls = .ok (frames, final)) :
    resampler.resampleAll calls = .ok (frames.flatten, final) := by
  induction calls generalizing resampler frames with
  | nil =>
    obtain ⟨rfl, rfl⟩ := Prod.ext_iff.mp (Except.ok.inj answered)
    rfl
  | cons call calls ih =>
    obtain ⟨fragment, last⟩ := call
    obtain ⟨⟨first, next⟩, ran, rest⟩ := bind_eq_ok.mp answered
    obtain ⟨⟨more, last⟩, others, result⟩ := bind_eq_ok.mp rest
    obtain ⟨rfl, rfl⟩ := Prod.ext_iff.mp (Except.ok.inj result)
    simp only [resampleAll, ran, ok_bind, ih others]
    rfl

/-- **A flush starts a new stream.**  After any calls that are answered, with any streams that have
ended among them, the rounds of a flush end if the frames of the stream can be counted in words,
and otherwise it breaks off; and whatever the rounds leave behind, the flush leads to the resampler
as it was made, and to no other.  So later calls are answered, one by one, like the same calls to a
resampler that is new. -/
theorem flush_starts_anew {World : Type} {outside : Collaborators World} {world : World}
    {inputRate outputRate : Float32} {given wanted : Nat} {kind : Transducer}
    (accepts : wholeHertz inputRate = .ok given) (yields : wholeHertz outputRate = .ok wanted)
    (converts : Converts outside world given wanted kind) :
    ∃ resampler, (makeResampler outside inputRate outputRate world).answer = .ok resampler ∧
      ∀ earlier before start, resampler.answers earlier = .ok (before, start) → ∀ fragment,
        let taken := start.feed fragment
        let calls := earlier ++ [(fragment, true)]
        (given = wanted ∨ Counted kind given wanted taken.2.framesIn →
          ∃ frames, taken.2.Flushes frames resampler) ∧
        (given ≠ wanted → ¬Counted kind given wanted taken.2.framesIn →
          ∃ operation, resampler.answers calls = .error (.overflow operation)) ∧
        (∀ frames next, taken.2.Flushes frames next → next = resampler ∧
          resampler.answers calls = .ok (before ++ [taken.1 ++ frames], resampler)) ∧
        ∀ answers next, resampler.answers calls = .ok (answers, next) → next = resampler ∧
          ∀ later, resampler.answers (calls ++ later) =
            (resampler.answers later).map fun (more, final) => (answers ++ more, final) := by
  have fits (distinct : given ≠ wanted) := (converts distinct).2
  have positive := (hertz_bounds accepts).1
  refine ⟨_, makeResampler_answer accepts yields converts, fun earlier before start ran => ?_⟩
  intro fragment taken calls
  obtain ⟨samples, rfl⟩ := exists_fed fits (resampleAll_of_answers ran)
  have fed : ((ofHertz kind given wanted).feed (samples ++ fragment)).2 = taken.2 := by
    rw [feed_append]
  have counts (distinct : given ≠ wanted) : taken.2.framesIn = (samples ++ fragment).length :=
    fed ▸ framesIn_feed distinct (samples ++ fragment)
  have answered : (ofHertz kind given wanted).answers calls = _ :=
    answers_append_of_ok ran [(fragment, true)]
  rw [answers_ended] at answered
  have renews {frames : List Float32} {next : Resampler}
      (flushed : taken.2.flush = .ok (frames, next)) : next = ofHertz kind given wanted :=
    (flush_eq_ok fits (fed ▸ flushed)).2
  refine ⟨fun countable => ?_, fun distinct uncounted => ?_, fun frames next flushes => ?_,
    fun answers next ended => ?_⟩
  · have countable' : given = wanted ∨ Counted kind given wanted (samples ++ fragment).length :=
      or_iff_not_imp_left.mpr fun distinct =>
        counts distinct ▸ countable.resolve_left distinct
    obtain ⟨frames, next, flushed, -⟩ := flush_of_counted fits positive countable'
    obtain rfl := (flush_eq_ok fits flushed).2
    exact ⟨frames, fed ▸ (flush_eq_ok_iff fits _ _ _).mp flushed⟩
  · obtain ⟨operation, broken⟩ := flush_of_not_counted distinct (counts distinct ▸ uncounted)
    rw [fed] at broken
    exact ⟨operation, by rw [answered, broken]; rfl⟩
  · have flushed :=
      fed ▸ (flush_eq_ok_iff fits (samples ++ fragment) frames next).mpr (fed ▸ flushes)
    obtain rfl := renews flushed
    exact ⟨rfl, by rw [answered, flushed]; rfl⟩
  · obtain ⟨⟨frames, last⟩, passed, result⟩ := map_eq_ok.mp (answered.symm.trans ended)
    obtain ⟨⟨others, fresh⟩, flushed, result'⟩ := map_eq_ok.mp passed
    obtain ⟨-, rfl⟩ := Prod.ext_iff.mp result'
    obtain ⟨-, rfl⟩ := Prod.ext_iff.mp result
    obtain rfl := renews flushed
    exact ⟨rfl, answers_append_of_ok ended⟩

/-- Behind the flush of two samples at two hertz, another sample is answered as by a new
resampler. -/
theorem flush_starts_anew_small :
    let outside := (Rehearsal.smallScript none []).collaborators
    ∃ resampler, (makeResampler outside 2.0 1.0 .initial).answer = .ok resampler ∧
      ∃ answers, resampler.answers [([0.5, 0.25], true)] = .ok (answers, resampler) ∧
        resampler.answers [([0.5, 0.25], true), ([0.5], true)] =
          (resampler.answers [([0.5], true)]).map fun (more, final) =>
            (answers ++ more, final) := by
  intro outside
  have accepts : wholeHertz 2.0 = .ok 2 := eq_ok_of_toOption (by decide +kernel)
  have yields : wholeHertz 1.0 = .ok 1 := eq_ok_of_toOption (by decide +kernel)
  have made : makeTransducer 2 1 = .ok _ :=
    makeTransducer_eq_ok (by decide +kernel) (by decide +kernel) (by decide +kernel)
  have fits := makeTransducer_fits (by decide) (by decide) made
  have converts : Converts outside .initial 2 1 _ := fun _ => ⟨made, fits⟩
  obtain ⟨resampler, starts, streams⟩ := flush_starts_anew accepts yields converts
  obtain rfl := Except.ok.inj (starts.symm.trans (makeResampler_answer accepts yields converts))
  have counted : Counted (Plan.ofSpan (.ofRates 2 1)).transducer 2 1
      [(0.5 : Float32), 0.25].length :=
    ⟨by decide +kernel, by decide +kernel⟩
  obtain ⟨ends, -, flushes, ended⟩ := streams [] [] _ rfl [0.5, 0.25]
  rw [framesIn_feed (by decide)] at ends
  obtain ⟨frames, flushed⟩ := ends (.inr counted)
  obtain ⟨-, answered⟩ := flushes frames _ flushed
  exact ⟨_, starts, _, answered, (ended _ _ answered).2 [([0.5], true)]⟩

end LiveSpeech.Audio
