import LiveSpeech.Proofs.Control
import LiveSpeech.Proofs.Words

/-!
# Opening messages are answered

An opening message is answered if the client is told that a session is ready, and there is one that
can be used, or if the client is told why, and there is none (`Answered`).

Every opening message is answered but for one reason: a collaborator breaks off that was to make a
converter for the session, or to have memory ready for one chunk of it (`init_answered_iff`).

A chunk may be so long that no memory has room for it (`OverLong`), which is a comparison of two
floating-point numbers.  A length that is no number, is negative or is small passes it, and no
other number among the arguments is looked at.  Where every block of memory is to be had whose bytes
can be counted, nothing else makes the memory break off.
-/

namespace LiveSpeech

set_option autoImplicit false

open LiveSpeech.Audio LiveSpeech.Number

variable {World : Type}

/-! ## Chunks that are too long -/

/-- The number `2 ^ 61`. -/
def chunkLimit : Float32 := 2305843009213693952.0

/-- Whether a multiple of a power of two rounds to `2 ^ 61` or more is seen at the power. -/
theorem le_roundQuotient_iff {significand : Nat} {exponent : Int} (small : significand < 2 ^ 24)
    (leading : exponent = -149 ∨ -149 < exponent ∧ 2 ^ 23 ≤ significand) :
    2 ^ 61 ≤ roundQuotient .up (dyadic significand exponent).1 (dyadic significand exponent).2 ↔
      38 ≤ exponent := by
  by_cases whole : 0 ≤ exponent
  · rw [roundQuotient_dyadic .up significand whole]
    constructor
    · intro large
      by_contra less
      have power : 2 ^ exponent.toNat ≤ 2 ^ 37 := Nat.pow_le_pow_right (by decide) (by omega)
      have product : significand * 2 ^ exponent.toNat < 2 ^ 24 * 2 ^ 37 :=
        Nat.mul_lt_mul_of_lt_of_le small power (by decide)
      omega
    · intro more
      have power : 2 ^ 38 ≤ 2 ^ exponent.toNat := Nat.pow_le_pow_right (by decide) (by omega)
      calc 2 ^ 61 = 2 ^ 23 * 2 ^ 38 := by decide
        _ ≤ significand * 2 ^ exponent.toNat := Nat.mul_le_mul (by omega) power
  · have numerator : (dyadic significand exponent).1 = significand := by
      rw [dyadic, Int.toNat_of_nonpos (by omega)]
      rfl
    have bound := roundQuotient_le .up (dyadic significand exponent).1
      (dyadic significand exponent).2
    refine iff_of_false ?_ (by omega)
    rw [numerator] at bound ⊢
    omega

/-- A number is no smaller than `2 ^ 61` exactly if its power is no smaller. -/
theorem isLE_compare_iff {significand : Nat} {exponent : Int}
    (leading : exponent = -149 ∨ -149 < exponent ∧ 2 ^ 23 ≤ significand) :
    ((compare 38 exponent).then (compare 8388608 significand)).isLE = true ↔ 38 ≤ exponent := by
  rw [Ordering.isLE_then_iff_or, Int.compare_eq_lt, Int.compare_eq_eq, Nat.isLE_compare]
  omega

/-- A count of `2 ^ 61` or more is not below zero, and is not cut off. -/
theorem le_saturatingWhole_iff (negative : Bool) (significand : Nat) (exponent : Int) :
    2 ^ 61 ≤ ((Reading.finite negative significand exponent).saturatingWhole 0
        Config.countLimit).toNat ↔
      negative = false ∧
        2 ^ 61 ≤ roundQuotient .up (dyadic significand exponent).1
          (dyadic significand exponent).2 := by
  have limit : (2 : Int) ^ 61 ≤ Config.countLimit := by decide
  generalize Config.countLimit = high at limit
  generalize nearest :
    roundQuotient .up (dyadic significand exponent).1 (dyadic significand exponent).2 = whole
  have saturates : (Reading.finite negative significand exponent).saturatingWhole 0 high =
      max 0 (min high (if negative then -whole else whole)) := by
    rw [← nearest]
    rfl
  rw [saturates, Int.le_toNat (le_max_left 0 _), le_max_iff, le_min_iff]
  cases negative with
  | true =>
    refine iff_of_false ?_ nofun
    rw [if_pos rfl]
    omega
  | false =>
    rw [if_neg Bool.false_ne_true, and_iff_right rfl]
    omega

/-- A comparison tells which numbers round to a count of `2 ^ 61` or more. -/
theorem chunkLimit_le_iff (samples : Float32) :
    chunkLimit ≤ samples ↔
      2 ^ 61 ≤ ((reading samples).saturatingWhole 0 Config.countLimit).toNat := by
  have limit : chunkLimit.toModel.unpack = .finite .positive 8388608 38 (by decide) := rfl
  have reads := reading_eq samples
  rw [le_iff_compare, limit, reads]
  -- A number that is none, or not above zero, is counted as zero; infinity is cut off high above.
  cases unpacked : samples.toModel.unpack with
  | notANumber => exact iff_of_false Bool.false_ne_true (by decide)
  | infinity sign =>
    cases sign with
    | negative => exact iff_of_false Bool.false_ne_true (by decide)
    | positive => exact iff_of_true rfl (by decide)
  | zero sign => cases sign <;> exact iff_of_false Bool.false_ne_true (by decide)
  | finite sign significand exponent filled =>
    rw [unpacked] at reads
    obtain ⟨small, leading⟩ := reading_bounds reads
    change _ ↔ 2 ^ 61 ≤ ((Reading.finite _ _ _).saturatingWhole 0 _).toNat
    rw [le_saturatingWhole_iff, le_roundQuotient_iff small leading]
    cases sign with
    | negative => exact iff_of_false Bool.false_ne_true fun both => Bool.false_ne_true both.1.symm
    | positive => exact (isLE_compare_iff leading).trans (and_iff_right rfl).symm

/-- The bytes of a chunk cannot be counted exactly if it is no shorter than `2 ^ 61` samples. -/
theorem memoryLimit_le_iff (config : Config) (nativeRate : Float32) :
    memoryLimit ≤ sampleBytes * config.chunkCapacity nativeRate ↔
      chunkLimit ≤ nativeRate * config.chunkLength := by
  rw [chunkLimit_le_iff, Config.chunkCapacity]
  simp only [memoryLimit, sampleBytes, Nat.pow_eq]
  omega

/-- An engine was made from the models, for the session that the arguments describe. -/
def EngineMade (arguments : List String) (rate : Float32) (record : List Event) (config : Config)
    (models : Models) : Prop :=
  Config.ofArguments arguments rate = .ok config ∧
    ∃ engine, .call (.createEngine models (.ok engine)) ∈ record

/-- Memory was asked for, for chunks of `2 ^ 61` samples or more. -/
def OverLong (arguments : List String) (rate : Float32) (record : List Event) : Prop :=
  ∃ config models answer, EngineMade arguments rate record config models ∧
    .call (.reserve (config.chunkCapacity models.nativeRate) answer) ∈ record ∧
    chunkLimit ≤ models.nativeRate * config.chunkLength

/-- Memory whose bytes cannot be counted is not to be had. -/
def Collaborators.Bounded (outside : Collaborators World) : Prop :=
  ∀ samples world, memoryLimit ≤ sampleBytes * samples → (outside.reserve samples world).1 ≠ .ok ()

/-- Memory whose bytes can be counted is to be had. -/
def Collaborators.Ample (outside : Collaborators World) : Prop :=
  ∀ samples world, sampleBytes * samples < memoryLimit → (outside.reserve samples world).1 = .ok ()

/-- A rehearsal has all memory whose bytes can be counted, and no other. -/
theorem Rehearsal.Script.memory (script : Rehearsal.Script) :
    script.collaborators.Bounded ∧ script.collaborators.Ample := by
  constructor
  · intro samples world exceeds given
    have refused : countBytes samples = .error .capacity := if_neg (Nat.not_lt.mpr exceeds)
    exact nomatch refused.symm.trans given
  · exact fun samples world counted => if_pos counted

/-! ## What is asked for -/

section Asked

variable {outside : Collaborators World} {models : Models} {config : Config}

/-- Memory is asked for once, for a chunk. -/
theorem FeedStep.reserved {made : Except Failure (Resampler × Accumulator)} {record : List Event}
    (step : FeedStep outside models config made record) {samples : Nat}
    {answer : Except Breakdown Unit} (asked : .call (.reserve samples answer) ∈ record) :
    samples = config.chunkCapacity models.nativeRate ∧
      ∃ world, (outside.reserve samples world).1 = answer := by
  have apart {given wanted : Nat} {kind : Option Transducer} :
      .call (.reserve samples answer) ∉ resampling given wanted kind := by
    cases kind <;> simp [resampling]
  cases step with
  | badRate => cases asked
  | noConverter => cases List.mem_singleton.mp asked
  | noMemory _ _ gives | made _ _ gives =>
    cases List.mem_singleton.mp ((List.mem_append.mp asked).resolve_left apart)
    exact ⟨rfl, gives⟩

/-- A converter is asked for between the rates of the audio and of the models. -/
theorem FeedStep.converted {made : Except Failure (Resampler × Accumulator)} {record : List Event}
    (step : FeedStep outside models config made record) {given wanted : Nat}
    {answer : Except ConverterFault Transducer}
    (asked : .call (.makeConverter given wanted answer) ∈ record) :
    wholeHertz config.rate = .ok given ∧ wholeHertz models.nativeRate = .ok wanted ∧
      given ≠ wanted := by
  have rates {given' wanted' : Nat} {kind : Option Transducer} {last : Event}
      (rated : Rated models config given' wanted' kind)
      (asked : .call (.makeConverter given wanted answer) ∈
        resampling given' wanted' kind ++ [last])
      (other : Event.call (.makeConverter given wanted answer) ≠ last) :
      wholeHertz config.rate = .ok given ∧ wholeHertz models.nativeRate = .ok wanted ∧
        given ≠ wanted := by
    have early := (List.mem_append.mp asked).resolve_right (mt List.mem_singleton.mp other)
    cases kind with
    | none => simp [resampling] at early
    | some kind =>
      obtain ⟨rfl, rfl, _⟩ : given = given' ∧ wanted = wanted' ∧ answer = .ok kind := by
        simpa [resampling] using early
      exact ⟨rated.accepts, rated.yields, rated.different.mp rfl⟩
  cases step with
  | badRate => cases asked
  | noConverter _ accepts yields distinct =>
    cases List.mem_singleton.mp asked
    exact ⟨accepts, yields, distinct⟩
  | noMemory _ rated | made rated => exact rates rated asked (by rintro ⟨⟩)

/-- What feeds an engine is asked for once the engine is made. -/
theorem BuildStep.exists_feed {built : Except Failure Resources} {record : List Event}
    (step : BuildStep outside models config built record) {event : Event}
    (feeds : event.isFeeding = true) (member : event ∈ record) :
    ∃ engine made feeding, .call (.createEngine models (.ok engine)) ∈ record ∧
      FeedStep outside models config made feeding ∧ event ∈ feeding := by
  cases step with
  | noEngine =>
    cases List.mem_singleton.mp member
    cases feeds
  | noFeed engine step =>
    refine ⟨engine, _, _, List.mem_cons_self .., step, ?_⟩
    rcases List.mem_cons.mp member with rfl | among
    · cases feeds
    · refine (List.mem_append.mp among).resolve_right fun last => ?_
      cases List.mem_singleton.mp last
      cases feeds
  | made resources step =>
    refine ⟨resources.engine, _, _, List.mem_cons_self .., step, ?_⟩
    rcases List.mem_cons.mp member with rfl | among
    · cases feeds
    · exact among

variable {arguments : List String} {rate : Float32} {answer : Except Failure Unit}
  {session : Option Session} {record : List Event}

/-- What an opening message asks for is for the session that it describes. -/
theorem InitStep.exists_feed (step : InitStep outside arguments rate answer session record)
    {event : Event} (builds : event.isBuilding = true) (feeds : event.isFeeding = true)
    (member : event ∈ record) :
    ∃ config models made feeding, EngineMade arguments rate record config models ∧
      FeedStep outside models config made feeding ∧ event ∈ feeding := by
  obtain ⟨config, models, built, building, read, step, among, within⟩ :=
    step.exists_building builds member
  obtain ⟨engine, made, feeding, created, fed, there⟩ := step.exists_feed feeds among
  exact ⟨config, models, made, feeding, ⟨read, engine, within created⟩, fed, there⟩

end Asked

/-! ## Answers -/

/-- A session that waits to be started, and takes audio from then on, with all that it needs made
anew. -/
structure Session.Usable (session : Session) : Prop where
  ready : session.state = .ready
  takes : ∃ resources, resources.MadeFor session.models session.config ∧
    ∀ {World : Type} (world : World),
      ((Session.start : Action (Stage World) Failure Unit) ⟨world, session⟩).state.session.Takes
        resources

/-- How an opening message is answered. -/
inductive Answered : Outcome (Protocol World) Failure Unit → Prop where
  /-- The client is told that the session is ready. -/
  | ready {run : Outcome (Protocol World) Failure Unit} {session : Session}
      (answered : run.answer = .ok ()) (told : messagesOf run.record = [.ready])
      (held : run.state.session = some session) (usable : session.Usable) : Answered run
  /-- The client is told why there is none. -/
  | usage {run : Outcome (Protocol World) Failure Unit} {text : String}
      (answered : run.answer = .ok ()) (told : messagesOf run.record = [.usage text])
      (uninitialized : run.state.state = .uninitialized) : Answered run

theorem usable_fresh (config : Config) (symbols : SymbolTable) {models : Models}
    {resources : Resources} (anew : resources.MadeFor models config) :
    (Session.fresh config symbols models (some resources)).Usable where
  ready := rfl
  takes := ⟨resources, anew, fun _ => ⟨rfl, rfl, rfl⟩⟩

/-- A session that was built can be used. -/
theorem OpeningStep.usable {outside : Collaborators World} {arguments : List String}
    {rate : Float32} {session : Session} {record : List Event}
    (step : OpeningStep outside arguments rate (.ok session) record) : session.Usable := by
  cases step with
  | built symbols _ step =>
    cases step with
    | made _ _ anew => exact usable_fresh _ symbols anew

theorem InitStep.usable {outside : Collaborators World} {arguments : List String} {rate : Float32}
    {answer : Except Failure Unit} {session : Session} {record : List Event}
    (step : InitStep outside arguments rate answer (some session) record) : session.Usable := by
  cases step with
  | ready step => exact step.usable

/-- What is known of a message that was answered or has broken off. -/
theorem InitStep.answered_iff {outside : Collaborators World} {arguments : List String}
    {rate : Float32} {run : Outcome (Protocol World) Failure Unit}
    (step : InitStep outside arguments rate run.answer run.state.session run.record) :
    (Answered run ↔ breakdownsOf run.record = []) ∧
      ∀ why ∈ breakdownsOf run.record, run.answer = .error (.broken why) ∧
        run.state.session = none ∧ messagesOf run.record = [] := by
  rw [step.breakdownsOf_eq]
  rcases step.answered with ⟨answered, told, there⟩ | ⟨answered, ⟨text, told⟩, none⟩ |
    ⟨⟨why, broken⟩, silent, none⟩
  · obtain ⟨session, held⟩ := Option.isSome_iff_exists.mp there
    rw [held] at step
    rw [answered]
    exact ⟨iff_of_true (.ready answered told held step.usable) rfl, nofun⟩
  · rw [answered]
    exact ⟨iff_of_true (.usage answered told (Protocol.state_of_none none)) rfl, nofun⟩
  · rw [broken]
    refine ⟨iff_of_false ?_ (List.cons_ne_nil _ _), fun other same => ?_⟩
    · rintro (⟨answered, _⟩ | ⟨answered, _⟩) <;> exact nomatch broken.symm.trans answered
    · rw [List.mem_singleton.mp same]
      exact ⟨rfl, none, silent⟩

/-- What has broken off was to make a converter, or to have memory ready. -/
theorem exists_broken {record : List Event} (broken : breakdownsOf record ≠ []) :
    (∃ given wanted why, .call (.makeConverter given wanted (.error (.broken why))) ∈ record) ∨
      ∃ samples why, .call (.reserve samples (.error why)) ∈ record := by
  obtain ⟨why, among⟩ := List.exists_mem_of_ne_nil _ broken
  obtain ⟨event, member, breaks⟩ := List.mem_filterMap.mp among
  unfold Event.breakdown? at breaks
  split at breaks
  · exact .inl ⟨_, _, _, member⟩
  · exact .inr ⟨_, _, member⟩
  · cases breaks

/-- **An opening message is answered unless a collaborator breaks off.**  Whatever the state of the
protocol, the arguments, and the answers of all that lies outside, a message is answered exactly if
nothing breaks off that it asks for; if something does the message breaks off with it, nothing is
sent, and there is no session.  What it asks for, once there is an engine, is a converter between
the rates of the audio and of the models if they are different, and memory for one chunk.

Memory whose bytes cannot be counted is not to be had, so that no message is answered that asks for
chunks of `2 ^ 61` samples or more.  Where all other memory is to be had and no converter breaks
off, every other message is answered. -/
theorem init_answered_iff (outside : Collaborators World) (protocol : Protocol World)
    (arguments : List String) (rate : Float32) :
    let run := Protocol.handle outside (.init arguments rate) protocol
    (Answered run ↔ breakdownsOf run.record = []) ∧
      (∀ why ∈ breakdownsOf run.record, run.answer = .error (.broken why) ∧
        run.state.session = none ∧ messagesOf run.record = []) ∧
      (∀ given wanted answer, .call (.makeConverter given wanted answer) ∈ run.record →
        ∃ config models, EngineMade arguments rate run.record config models ∧
          wholeHertz config.rate = .ok given ∧ wholeHertz models.nativeRate = .ok wanted ∧
          given ≠ wanted) ∧
      (∀ samples answer, .call (.reserve samples answer) ∈ run.record →
        ∃ config models, EngineMade arguments rate run.record config models ∧
          samples = config.chunkCapacity models.nativeRate) ∧
      (outside.Bounded → OverLong arguments rate run.record → ¬Answered run) ∧
      (outside.Ample → ¬Answered run → OverLong arguments rate run.record ∨
        ∃ given wanted why,
          .call (.makeConverter given wanted (.error (.broken why))) ∈ run.record) := by
  intro run
  have step : InitStep outside arguments rate run.answer run.state.session run.record :=
    init_step outside arguments rate protocol
  obtain ⟨answered, broken⟩ := step.answered_iff
  refine ⟨answered, broken, ?_, ?_, ?_, ?_⟩
  · intro given wanted answer asked
    obtain ⟨config, models, _, _, made, fed, there⟩ := step.exists_feed rfl rfl asked
    exact ⟨config, models, made, fed.converted there⟩
  · intro samples answer asked
    obtain ⟨config, models, _, _, made, fed, there⟩ := step.exists_feed rfl rfl asked
    exact ⟨config, models, made, (fed.reserved there).1⟩
  · rintro bounded ⟨config, models, answer, _, asked, long⟩ free
    obtain ⟨_, _, _, _, _, fed, there⟩ := step.exists_feed rfl rfl asked
    obtain ⟨world, gave⟩ := (fed.reserved there).2
    have refused := bounded _ world ((memoryLimit_le_iff config models.nativeRate).mpr long)
    rw [gave] at refused
    cases answer with
    | ok => exact refused rfl
    | error why =>
      have among : why ∈ breakdownsOf run.record := List.mem_filterMap.mpr ⟨_, asked, rfl⟩
      rw [answered.mp free] at among
      cases among
  · intro ample unanswered
    rcases exists_broken (mt answered.mpr unanswered) with ⟨given, wanted, why, asked⟩ |
      ⟨samples, why, asked⟩
    · exact .inr ⟨given, wanted, why, asked⟩
    · obtain ⟨config, models, _, _, made, fed, there⟩ := step.exists_feed rfl rfl asked
      obtain ⟨rfl, world, gave⟩ := fed.reserved there
      refine .inl ⟨config, models, _, made, asked, (memoryLimit_le_iff _ _).mp ?_⟩
      by_contra counted
      exact nomatch gave.symm.trans (ample _ world (Nat.not_le.mp counted))

/-- An opening message that asks for very long chunks is not answered, although the length is a
number like others. -/
theorem unanswered_of_long_chunk :
    let outside := (Rehearsal.smallScript none []).collaborators
    let message : ClientMessage :=
      .init ["--word-symbol-table=w", "--chunk-length=1e30", "m", "g"] 16000.0
    ¬Answered (Protocol.handle outside message (.initial .initial)) := by
  intro outside message
  have silent : (messagesOf (Protocol.handle outside message (.initial .initial)).record).isEmpty =
      true := by
    decide +kernel
  rintro (⟨_, told, _⟩ | ⟨_, told, _⟩) <;>
    · rw [told] at silent
      cases silent

end LiveSpeech
