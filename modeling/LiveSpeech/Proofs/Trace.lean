import LiveSpeech.Proofs.Cadence
import LiveSpeech.Proofs.Gating

/-!
# The calls of a session

Between two buildings the calls of a session are those of cycles, one after the other, no matter
how the audio came in, how often the session was started, and what failed on the way.  The cycles
whose chunk was accepted are counted (`Tally`), and the clock is waited for with that count: in
the cycle of the `k`-th accepted chunk until the end of `k` chunks of audio (`chunkSeconds`).

What one request can call is listed (`RequestCalls`).  A session that has come to some tally does
one of these things and comes to the next tally (`obey_calls`), so that a run is a row of them
(`Traced`).  From that the waits are counted, and a call that fails is seen to be the last of its
request (`session_calls`).
-/

namespace LiveSpeech

set_option autoImplicit false

open LiveSpeech.Audio

variable {World : Type}

/-! ## Tallies -/

/-- The seconds of audio depend on the samples passed on and their rate alone. -/
theorem TimingGate.audioSeconds_congr {gate other : TimingGate}
    (consumed : gate.consumed = other.consumed) (rate : gate.nativeRate = other.nativeRate) :
    gate.audioSeconds = other.audioSeconds := by
  rw [audioSeconds, audioSeconds, consumed, rate]

/-- What an engine has come to since it was made. -/
structure Tally where
  /-- The chunks that it has accepted. -/
  accepted : Nat
  /-- The ticks of audio at which an output was looked at. -/
  ticks : Nat

/-- An engine that has just been made. -/
def Tally.zero : Tally := ⟨0, 0⟩

/-- The gate of a session that has come to a tally: it counts the samples of all chunks that were
accepted. -/
def Tally.gate (config : Config) (nativeRate : Float32) (tally : Tally) : TimingGate :=
  let start := TimingGate.start nativeRate (Int64.ofInt (config.samplesPerTick nativeRate))
  { start with
    consumed := Int64.ofNat (tally.accepted * config.chunkCapacity nativeRate)
    lastOutput := Int64.ofNat (tally.ticks * start.tickSize) }

/-- The seconds of audio in so many chunks, as the gate computes them. -/
def chunkSeconds (config : Config) (nativeRate : Float32) (count : Nat) : Float :=
  (Tally.gate config nativeRate ⟨count, 0⟩).audioSeconds

/-- As long as the samples can be counted in a word, the seconds are computed from their exact
count. -/
theorem chunkSeconds_eq (config : Config) (nativeRate : Float32) {count : Nat}
    (fits : count * config.chunkCapacity nativeRate < Nat.pow 2 63) :
    chunkSeconds config nativeRate count =
      Number.nearest Float false (count * config.chunkCapacity nativeRate) 1 /
        nativeRate.toFloat := by
  have exact : (Int64.ofNat (count * config.chunkCapacity nativeRate)).toInt =
      (count * config.chunkCapacity nativeRate : Nat) := Int64.toInt_ofNat_of_lt fits
  have positive : ¬Int64.ofNat (count * config.chunkCapacity nativeRate) < 0 := by
    rw [Int64.lt_iff_toInt_lt, exact]
    exact Int.not_lt.mpr (Int.natCast_nonneg _)
  simp only [chunkSeconds, TimingGate.audioSeconds, Tally.gate, TimingGate.start, positive,
    decide_false, exact, Int.natAbs_natCast]

section Gates

variable {config : Config} {nativeRate : Float32}

theorem start_eq_gate :
    TimingGate.start nativeRate (Int64.ofInt (config.samplesPerTick nativeRate)) =
      Tally.zero.gate config nativeRate := by
  simp only [Tally.gate, Tally.zero, Nat.zero_mul]
  rfl

/-- The seconds of audio depend on the accepted chunks alone. -/
theorem audioSeconds_gate (tally : Tally) :
    (tally.gate config nativeRate).audioSeconds =
      chunkSeconds config nativeRate tally.accepted :=
  TimingGate.audioSeconds_congr rfl rfl

theorem consume_gate (tally : Tally) :
    (tally.gate config nativeRate).consume (config.chunkCapacity nativeRate) =
      Tally.gate config nativeRate ⟨tally.accepted + 1, tally.ticks⟩ := by
  simp only [TimingGate.consume, Tally.gate, Nat.add_mul, Nat.one_mul, Int64.ofNat_add]

theorem advanceOutput_gate (tally : Tally) :
    (tally.gate config nativeRate).advanceOutput =
      Tally.gate config nativeRate ⟨tally.accepted, tally.ticks + 1⟩ := by
  simp only [TimingGate.advanceOutput, Tally.gate, Nat.add_mul, Nat.one_mul, Int64.ofNat_add,
    TimingGate.ofNat_tickSize]

end Gates

/-! ## Waits -/

/-- What the clock is waited for. -/
def Event.wait? : Event → Option Float
  | .call (.waitUntil seconds) => some seconds
  | _ => none

/-- The times that the clock was waited for. -/
def waitsOf (record : List Event) : List Float := record.filterMap Event.wait?

@[simp] theorem waitsOf_append (first second : List Event) :
    waitsOf (first ++ second) = waitsOf first ++ waitsOf second :=
  List.filterMap_append

/-- Behind so many accepted chunks, the clock is waited for once with each chunk that is
accepted: until the end of all accepted chunks. -/
def Paced (config : Config) (nativeRate : Float32) (accepted : Nat) (record : List Event) : Prop :=
  waitsOf record =
    (List.range' (accepted + 1) (acceptedIn record)).map (chunkSeconds config nativeRate)

/-- No chunk is accepted, and nothing is waited for. -/
structure Unpaced (record : List Event) : Prop where
  accepted : acceptedIn record = 0
  waits : waitsOf record = []

section Paced

variable {config : Config} {nativeRate : Float32} {accepted : Nat} {first second : List Event}

theorem Unpaced.paced (unpaced : Unpaced first) : Paced config nativeRate accepted first := by
  rw [Paced, unpaced.accepted, unpaced.waits]
  rfl

theorem Paced.append (before : Paced config nativeRate accepted first)
    (after : Paced config nativeRate (accepted + acceptedIn first) second) :
    Paced config nativeRate accepted (first ++ second) := by
  rw [Paced] at before after ⊢
  rw [waitsOf_append, acceptedIn_append, before, after, ← List.map_append,
    Nat.add_right_comm, List.range'_append_1]

end Paced

/-- What does not drive the engine is not paced. -/
theorem Undriven.unpaced {record : List Event} (undriven : Undriven record) : Unpaced record where
  accepted := by
    refine List.countP_eq_zero.mpr fun event member accepted => ?_
    have quiet := undriven event member
    cases event with
    | call call => cases call <;> first | cases accepted | cases quiet
    | note notice => cases accepted
    | send message => cases accepted
  waits := by
    refine List.filterMap_eq_nil_iff.mpr fun event member => ?_
    have quiet := undriven event member
    cases event with
    | call call => cases call <;> first | rfl | cases quiet
    | note notice => rfl
    | send message => rfl

/-- One chunk is accepted, and its end waited for. -/
structure PacedOnce (decoder : Decoder) (accepted : Nat) (record : List Event) : Prop where
  once : acceptedIn record = 1
  paced : Paced decoder.config decoder.nativeRate accepted record

theorem PacedOnce.append {decoder : Decoder} {accepted : Nat} {first second : List Event}
    (before : PacedOnce decoder accepted first) (after : Unpaced second) :
    PacedOnce decoder accepted (first ++ second) where
  once := by rw [acceptedIn_append, before.once, after.accepted]
  paced := before.paced.append after.paced

/-- Up to what the engine decodes one chunk has been accepted. -/
theorem Reweighing.heard_pacedOnce {decoder : Decoder} {weighing : List Event}
    (weighs : Reweighing decoder.engine weighing) (chunk : List Float32) (tally : Tally)
    (answer : Except EngineError Unit) :
    PacedOnce decoder tally.accepted (decoder.heard chunk
      (Tally.gate decoder.config decoder.nativeRate ⟨tally.accepted + 1, tally.ticks⟩)
      weighing answer) := by
  cases weighs <;> exact ⟨rfl, congrArg (· :: []) (audioSeconds_gate _)⟩

/-! ## Cycles and rows -/

section Rows

variable {debugging : Bool} {decoder : Decoder} {tally : Tally} {timing' : TimingGate}
  {before after : Bool} {calls : List Event}

/-- A cycle moves the tally by its chunk, if that is accepted, and by at most one tick. -/
theorem CycleCalls.moves {chunk : List Float32} {answer : Except SessionError Unit}
    (cycle : CycleCalls debugging decoder chunk (tally.gate decoder.config decoder.nativeRate)
      before answer timing' after calls)
    (size : chunk.length = decoder.config.chunkCapacity decoder.nativeRate) :
    ∃ tally' : Tally, timing' = tally'.gate decoder.config decoder.nativeRate ∧
      tally'.accepted = tally.accepted + acceptedIn calls ∧
      Paced decoder.config decoder.nativeRate tally.accepted calls := by
  have counted : (tally.gate decoder.config decoder.nativeRate).consume chunk.length =
      Tally.gate decoder.config decoder.nativeRate ⟨tally.accepted + 1, tally.ticks⟩ := by
    rw [size, consume_gate]
  cases cycle with
  | refused => exact ⟨tally, rfl, rfl, rfl⟩
  | stuck weighs cause =>
    rw [counted]
    have heard := weighs.heard_pacedOnce chunk tally (.error cause)
    exact ⟨_, rfl, by rw [heard.once], heard.paced⟩
  | notDue weighs =>
    rw [counted]
    have heard := weighs.heard_pacedOnce chunk tally (.ok ())
    exact ⟨_, rfl, by rw [heard.once], heard.paced⟩
  | due weighs _ looks =>
    rw [counted] at looks ⊢
    have whole := (weighs.heard_pacedOnce chunk tally (.ok ())).append looks.undriven.unpaced
    obtain ⟨_, _, notes⟩ := looks
    cases notes with
    | unspelled => exact ⟨_, rfl, by rw [whole.once], whole.paced⟩
    | noted => exact ⟨_, advanceOutput_gate _, by rw [whole.once], whole.paced⟩

/-- A row of chunks moves the tally by the chunks that were accepted. -/
theorem RowCalls.moves {chunks : List (List Float32)} {answer : Except SessionError Delivery}
    {timing : TimingGate}
    (row : RowCalls debugging decoder chunks timing before answer timing' after calls)
    (sizes : ∀ chunk ∈ chunks, chunk.length = decoder.config.chunkCapacity decoder.nativeRate)
    (counts : timing = tally.gate decoder.config decoder.nativeRate) :
    ∃ tally' : Tally, timing' = tally'.gate decoder.config decoder.nativeRate ∧
      tally'.accepted = tally.accepted + acceptedIn calls ∧
      Paced decoder.config decoder.nativeRate tally.accepted calls := by
  induction row generalizing tally with
  | nil => exact ⟨tally, counts, rfl, rfl⟩
  | failed cycle =>
    subst counts
    exact cycle.moves (sizes _ (List.mem_cons_self ..))
  | unfinished cycle finalizes =>
    subst counts
    obtain ⟨tally', counts, accepted, paced⟩ := cycle.moves (sizes _ (List.mem_cons_self ..))
    have last := finalizes.undriven.unpaced
    refine ⟨tally', counts, ?_, paced.append last.paced⟩
    rw [acceptedIn_append, last.accepted]
    exact accepted
  | @ended _ _ _ _ _ _ _ cycle transcript finalizes =>
    subst counts
    obtain ⟨tally', counts, accepted, paced⟩ := cycle.moves (sizes _ (List.mem_cons_self ..))
    have last := (finalizes.undriven.append (undriven_send (.transcript transcript))).unpaced
    refine ⟨tally', counts, ?_, paced.append last.paced⟩
    rw [acceptedIn_append, last.accepted]
    exact accepted
  | next cycle _ ih =>
    subst counts
    obtain ⟨tally₁, counts₁, accepted₁, paced₁⟩ := cycle.moves (sizes _ (List.mem_cons_self ..))
    obtain ⟨tally₂, counts₂, accepted₂, paced₂⟩ :=
      ih (fun chunk member => sizes chunk (List.mem_cons_of_mem _ member)) counts₁
    rw [accepted₁] at accepted₂ paced₂
    refine ⟨tally₂, counts₂, ?_, paced₁.append paced₂⟩
    rw [accepted₂, acceptedIn_append, Nat.add_assoc]

end Rows

/-! ## Calls that fail -/

/-- There is no engine, or it fails, or a number on the best path has no word. -/
def Event.Fails (symbols : SymbolTable) : Event → Prop
  | .call (.createEngine _ (.error _)) => True
  | .call (.acceptWaveform _ _ _ (.error _)) => True
  | .call (.advanceDecoding _ (.error _)) => True
  | .call (.bestPath _ (some path)) => ∃ number, symbols.render path.words = .error number
  | _ => False

theorem Event.not_fails_of_isFeeding {symbols : SymbolTable} {event : Event}
    (feeds : event.isFeeding = true) : ¬event.Fails symbols := by
  cases event with
  | call call => cases call <;> first | exact id | cases feeds
  | note notice => exact id
  | send message => cases feeds

/-- Nothing comes behind a call that fails, and only if `failed` does a call fail. -/
structure FailsLast (symbols : SymbolTable) (failed : Prop) (calls : List Event) : Prop where
  last : calls.Pairwise fun earlier _ => ¬earlier.Fails symbols
  failed : ∀ event ∈ calls, event.Fails symbols → failed

namespace FailsLast

variable {symbols : SymbolTable} {failed : Prop} {first second : List Event}

/-- What does not fail may come before. -/
theorem append (before : FailsLast symbols False first) (after : FailsLast symbols failed second) :
    FailsLast symbols failed (first ++ second) where
  last := List.pairwise_append.mpr
    ⟨before.last, after.last, fun earlier member _ _ fails => before.failed earlier member fails⟩
  failed := by
    intro event member fails
    rcases List.mem_append.mp member with early | late
    · exact (before.failed event early fails).elim
    · exact after.failed event late fails

theorem mono {other : Prop} (lasts : FailsLast symbols failed first) (wider : failed → other) :
    FailsLast symbols other first :=
  ⟨lasts.last, fun event member fails => wider (lasts.failed event member fails)⟩

/-- Where there is an answer no call fails. -/
theorem of_ok {Failure Answer : Type} {answer : Answer}
    (lasts : FailsLast symbols ((.ok answer : Except Failure Answer).isOk = false) first) :
    FailsLast symbols False first :=
  lasts.mono fun failed => Bool.false_ne_true failed.symm

theorem of_none (none : ∀ event ∈ first, ¬event.Fails symbols) : FailsLast symbols failed first :=
  ⟨List.pairwise_of_forall_mem_list fun earlier member _ _ => none earlier member,
    fun event member fails => (none event member fails).elim⟩

/-- A call that fails is the last, and the message fails with it. -/
theorem of_split (lasts : FailsLast symbols failed first) {before after : List Event}
    {event : Event} (parts : first = before ++ event :: after) (fails : event.Fails symbols) :
    after = [] ∧ failed := by
  subst parts
  refine ⟨List.eq_nil_iff_forall_not_mem.mpr fun later member => ?_,
    lasts.failed event (List.mem_append_right _ (List.mem_cons_self ..)) fails⟩
  have behind := (List.pairwise_cons.mp (List.pairwise_append.mp lasts.last).2.1).1
  exact behind later member fails

end FailsLast

section Failing

variable {debugging : Bool} {decoder : Decoder}

theorem Spelling.failsLast {answer : Except SessionError String} {spelling : List Event}
    (spells : Spelling decoder answer spelling) :
    FailsLast decoder.symbols (answer.isOk = false) spelling := by
  cases spells with
  | noFrames | noPath => exact .of_none (by simp [Event.Fails])
  | spelled _ _ renders => exact .of_none (by simp [Event.Fails, renders])
  | unknown => exact ⟨by simp [Event.Fails], fun _ _ _ => rfl⟩

theorem Decoder.costed_failsLast (decoder : Decoder) (failed : Prop) (cost : Float32) :
    FailsLast decoder.symbols failed [decoder.costed cost] :=
  .of_none (List.forall_mem_singleton.mpr id)

theorem PartialCalls.failsLast {timing timing' : TimingGate} {answer : Except SessionError Unit}
    {noting : List Event} (notes : PartialCalls debugging decoder timing answer timing' noting) :
    FailsLast decoder.symbols (answer.isOk = false) noting := by
  cases notes with
  | unspelled spells => exact spells.failsLast.mono fun _ => rfl
  | noted spells cost =>
    refine spells.failsLast.of_ok.append ?_
    cases cost with
    | none => exact .of_none (List.forall_mem_nil _)
    | some cost => exact decoder.costed_failsLast _ cost

theorem LookCalls.failsLast {timing timing' : TimingGate} {before after : Bool}
    {answer : Except SessionError Unit} {looking : List Event}
    (looks : LookCalls debugging decoder timing before answer timing' after looking) :
    FailsLast decoder.symbols (answer.isOk = false) looking := by
  obtain ⟨look, _, notes⟩ := looks
  refine FailsLast.append (.of_none ?_) notes.failsLast
  cases look <;> simp [Decoder.looked, Event.Fails]

/-- Up to what the engine decodes the search is the one call that can fail. -/
theorem Reweighing.heard_failsLast {weighing : List Event}
    (weighs : Reweighing decoder.engine weighing) (chunk : List Float32) (counted : TimingGate)
    (answer : Except EngineError Unit) :
    FailsLast decoder.symbols (answer.isOk = false)
      (decoder.heard chunk counted weighing answer) := by
  have before : ∀ event ∈ decoder.passed chunk (.ok ()) ::
      .call (.waitUntil counted.audioSeconds) :: weighing, ¬event.Fails decoder.symbols := by
    cases weighs <;> simp [Decoder.passed, Event.Fails]
  refine FailsLast.append (.of_none before) ⟨List.pairwise_singleton .., ?_⟩
  refine List.forall_mem_singleton.mpr fun fails => ?_
  cases answer with
  | error => rfl
  | ok => cases fails

theorem CycleCalls.failsLast {chunk : List Float32} {timing timing' : TimingGate}
    {before after : Bool} {answer : Except SessionError Unit} {calls : List Event}
    (cycle : CycleCalls debugging decoder chunk timing before answer timing' after calls) :
    FailsLast decoder.symbols (answer.isOk = false) calls := by
  cases cycle with
  | refused => exact ⟨List.pairwise_singleton .., fun _ _ _ => rfl⟩
  | stuck weighs cause => exact (weighs.heard_failsLast _ _ (.error cause)).mono fun _ => rfl
  | notDue weighs => exact weighs.heard_failsLast _ _ (.ok ())
  | due weighs _ looks =>
    exact (weighs.heard_failsLast _ _ (.ok ())).of_ok.append looks.failsLast

theorem Finalizing.failsLast {answer : Except SessionError String} {calls : List Event}
    (finalizes : Finalizing decoder answer calls) :
    FailsLast decoder.symbols (answer.isOk = false) calls := by
  cases finalizes with
  | uncertain => exact decoder.costed_failsLast _ _
  | certain _ spells => exact (decoder.costed_failsLast False _).append spells.failsLast

/-- **A call that fails is the last of its row, and the row fails with it.** -/
theorem RowCalls.failsLast {chunks : List (List Float32)} {timing timing' : TimingGate}
    {before after : Bool} {answer : Except SessionError Delivery} {calls : List Event}
    (row : RowCalls debugging decoder chunks timing before answer timing' after calls) :
    FailsLast decoder.symbols (answer.isOk = false) calls := by
  induction row with
  | nil => exact .of_none (List.forall_mem_nil _)
  | failed cycle => exact cycle.failsLast.mono fun _ => rfl
  | unfinished cycle finalizes =>
    exact cycle.failsLast.of_ok.append (finalizes.failsLast.mono fun _ => rfl)
  | @ended _ _ _ _ _ _ _ cycle transcript finalizes =>
    have sent : FailsLast decoder.symbols False [.send (.transcript transcript)] :=
      .of_none (by simp [Event.Fails])
    exact cycle.failsLast.of_ok.append ((finalizes.failsLast.of_ok.append sent).mono False.elim)
  | @next _ _ _ _ _ _ _ answer _ _ cycle _ ih =>
    refine cycle.failsLast.of_ok.append (ih.mono fun failed => ?_)
    cases answer with
    | error => rfl
    | ok => cases failed

end Failing

/-! ## Requests -/

/-- What a session has an engine for, and what that has come to. -/
abbrev Holding := Option (Engine × Tally)

/-- How many chunks the engine has accepted, if there is one. -/
def Holding.accepted : Holding → Nat
  | none => 0
  | some (_, tally) => tally.accepted

/-- The calls that let go of an engine. -/
inductive LettingGo : Holding → List Event → Prop where
  | none : LettingGo none []
  | some (engine : Engine) (tally : Tally) (elapsed : Float) :
      LettingGo (some (engine, tally))
        [.call (.elapsedSeconds elapsed), .call (.releaseEngine engine)]

/-- The decoder of an engine. -/
def Engine.decoder (config : Config) (symbols : SymbolTable) (models : Models)
    (engine : Engine) : Decoder :=
  ⟨config, symbols, models.nativeRate, engine⟩

/-- The calls and messages of a request, from what the session holds: how it is answered, and what
the session holds then. -/
inductive RequestCalls (outside : Collaborators World) (config : Config) (symbols : SymbolTable)
    (models : Models) :
    Holding → SessionRequest → Except Failure Unit → List Event → Holding → Prop where
  /-- A start calls nobody. -/
  | start (held : Holding) : RequestCalls outside config symbols models held .start (.ok ()) [] held
  /-- Audio is dropped. -/
  | dropped (held : Holding) (samples : List Float32) :
      RequestCalls outside config symbols models held (.audio samples) (.ok ()) [] held
  /-- There is no engine for the audio. -/
  | released (samples : List Float32) :
      RequestCalls outside config symbols models none (.audio samples)
        (.error (.error .released)) [] none
  /-- Audio is decoded in chunks of one size. -/
  | decoded {engine : Engine} {tally tally' : Tally} (samples : List Float32)
      {chunks : List (List Float32)} {answer : Except SessionError Delivery} {flag : Bool}
      {calls : List Event}
      (sizes : ∀ chunk ∈ chunks, chunk.length = config.chunkCapacity models.nativeRate)
      (row : RowCalls outside.debugging (engine.decoder config symbols models) chunks
        (tally.gate config models.nativeRate) false answer (tally'.gate config models.nativeRate)
        flag calls)
      (counted : tally'.accepted = tally.accepted + acceptedIn calls) :
      RequestCalls outside config symbols models (some (engine, tally)) (.audio samples)
        ((answer.mapError .error).map fun _ => ()) calls (some (engine, tally'))
  /-- What there is is let go, and made anew or not. -/
  | reset {held : Holding} {letGo building : List Event} {built : Except Failure Resources}
      (lets : LettingGo held letGo) (builds : BuildStep outside models config built building) :
      RequestCalls outside config symbols models held .reset (built.map fun _ => ())
        (letGo ++ .call .restartClock :: effectsOf building)
        (built.toOption.map fun resources => (resources.engine, .zero))

/-- The resources of a session, as what it holds: what an engine has come to is in the counts of
its gate. -/
inductive HeldAs (config : Config) (models : Models) : Option Resources → Holding → Prop where
  | none : HeldAs config models none none
  | some {resources : Resources} {tally : Tally}
      (capacity : resources.accumulator.capacity = config.chunkCapacity models.nativeRate)
      (timing : resources.timing = tally.gate config models.nativeRate) :
      HeldAs config models (some resources) (some (resources.engine, tally))

/-- A session for a configuration, symbols and models, and what it holds. -/
structure Session.Tallies (session : Session) (config : Config) (symbols : SymbolTable)
    (models : Models) (held : Holding) : Prop where
  config_eq : session.config = config
  symbols_eq : session.symbols = symbols
  models_eq : session.models = models
  heldAs : HeldAs config models session.resources held

section Obey

variable {outside : Collaborators World} {config : Config} {symbols : SymbolTable}
  {models : Models} {held : Holding}

theorem Resources.MadeFor.heldAs {resources : Resources}
    (anew : resources.MadeFor models config) :
    HeldAs config models (Option.some resources) (Option.some (resources.engine, .zero)) := by
  refine .some ?_ ?_
  · rw [anew.made]
    exact max_chunkCapacity config models.nativeRate
  · rw [anew.made]
    exact start_eq_gate

theorem BuildStep.heldAs {built : Except Failure Resources} {building : List Event}
    (builds : BuildStep outside models config built building) :
    HeldAs config models built.toOption
      (built.toOption.map fun resources => (resources.engine, .zero)) := by
  cases builds with
  | noEngine | noFeed => exact .none
  | made _ _ anew => exact anew.heldAs

theorem start_calls {stage : Stage World}
    (tallies : stage.session.Tallies config symbols models held) :
    let run := (Session.start : Action (Stage World) Failure Unit) stage
    run.answer = .ok () ∧ effectsOf run.record = [] ∧
      run.state.session.Tallies config symbols models held := by
  by_cases listening : stage.session.state = .listening
  · rw [start_of_listening listening]
    exact ⟨rfl, rfl, tallies⟩
  · rw [start_of_not_listening listening]
    exact ⟨rfl, rfl, tallies.config_eq, tallies.symbols_eq, tallies.models_eq, tallies.heldAs⟩

theorem letGo_calls (outside : Collaborators World) {session : Session}
    (heldAs : HeldAs config models session.resources held) (world : World) :
    ∃ letGo, LettingGo held letGo ∧
      effectsOf (session.letGo outside world).record = letGo ++ [.call .restartClock] := by
  unfold Session.letGo noteReset
  generalize session.resources = resources at heldAs ⊢
  cases heldAs with
  | none => exact ⟨[], .none, rfl⟩
  | @some resources tally => exact ⟨_, .some resources.engine tally _, rfl⟩

theorem reset_calls (outside : Collaborators World) {stage : Stage World}
    (tallies : stage.session.Tallies config symbols models held) :
    let run := Session.reset outside stage
    ∃ held', RequestCalls outside config symbols models held .reset run.answer
        (effectsOf run.record) held' ∧
      run.state.session.Tallies config symbols models held' := by
  intro run
  have builds := buildResources_step outside stage.session.models stage.session.config
    (stage.session.letGo outside stage.world).state
  obtain ⟨rfl, rfl, rfl, heldAs⟩ := tallies
  obtain ⟨letGo, lets, calls⟩ := letGo_calls outside heldAs stage.world
  have ran : run = _ := reset_run outside stage
  rw [rebuild_run _ _ _ rfl] at ran
  rw [ran, Outcome.after_record, effectsOf_append, calls, List.append_assoc]
  exact ⟨_, .reset lets builds, rfl, rfl, rfl, builds.heldAs⟩

/-- A row of chunks that were cut with the resources of a session leaves the session with the same
engine, which has come to more. -/
theorem Session.Tallies.row {session : Session}
    (tallies : session.Tallies config symbols models held)
    {resources : Resources} (made : session.resources = some resources) {samples : List Float32}
    {answer : Except SessionError Delivery} {timing : TimingGate} {flag : Bool}
    {calls : List Event}
    (row : RowCalls outside.debugging (session.decoder resources) (resources.chunks samples)
      resources.timing false answer timing flag calls) :
    ∃ held', RequestCalls outside config symbols models held (.audio samples)
        ((answer.mapError .error).map fun _ => ()) calls held' ∧
      ∀ accumulator : Accumulator, accumulator.capacity = resources.accumulator.capacity →
        (session.keep (resources.fed samples) accumulator timing flag).Tallies config symbols
          models held' := by
  obtain ⟨rfl, rfl, rfl, heldAs⟩ := tallies
  rw [made] at heldAs
  cases heldAs with
  | @some _ tally capacity counts =>
    have sizes : ∀ chunk ∈ resources.chunks samples,
        chunk.length = session.config.chunkCapacity session.models.nativeRate :=
      fun chunk member => (Accumulator.length_of_mem_cut _ _ chunk member).trans capacity
    obtain ⟨tally', rfl, accepted, _⟩ := row.moves sizes counts
    rw [counts] at row
    refine ⟨_, .decoded samples sizes row accepted, fun accumulator same => ?_⟩
    exact ⟨rfl, rfl, rfl, .some (same.trans capacity) rfl⟩

theorem AudioCalls.request {session session' : Session} {samples : List Float32}
    {answer : Except SessionError Nat} {calls : List Event}
    (audio : AudioCalls outside.debugging session samples answer session' calls)
    (tallies : session.Tallies config symbols models held) :
    ∃ held', RequestCalls outside config symbols models held (.audio samples)
        ((answer.mapError .error).map fun _ => ()) calls held' ∧
      session'.Tallies config symbols models held' := by
  cases audio with
  | disabled => exact ⟨held, .dropped held samples, tallies⟩
  | released _ released =>
    obtain ⟨rfl, rfl, rfl, heldAs⟩ := tallies
    have without := heldAs
    rw [released] at without
    cases without
    exact ⟨_, .released samples, rfl, rfl, rfl, heldAs⟩
  | reported resources _ made =>
    obtain ⟨rfl, rfl, rfl, heldAs⟩ := tallies
    rw [made] at heldAs
    cases heldAs with
    | some capacity timing =>
      exact ⟨_, .dropped _ samples, rfl, rfl, rfl, .some capacity timing⟩
  | failed resources takes row =>
    obtain ⟨held', calls, kept⟩ := tallies.row takes.held row
    exact ⟨held', calls, kept _ (Accumulator.cut_capacity ..)⟩
  | complete resources takes row =>
    obtain ⟨held', calls, kept⟩ := tallies.row takes.held row
    exact ⟨held', calls, kept _ (Accumulator.cut_capacity ..)⟩
  | ended resources takes row =>
    obtain ⟨held', calls, kept⟩ := tallies.row takes.held row
    have closed := kept (resources.rest samples).drained (Accumulator.cut_capacity ..)
    exact ⟨held', calls, closed.config_eq, closed.symbols_eq, closed.models_eq, closed.heldAs⟩

/-- **The calls of one request.** -/
theorem obey_calls (outside : Collaborators World) (request : SessionRequest)
    {stage : Stage World} (tallies : stage.session.Tallies config symbols models held) :
    let run := Session.obey outside request stage
    ∃ held', RequestCalls outside config symbols models held request run.answer
        (effectsOf run.record) held' ∧
      run.state.session.Tallies config symbols models held' := by
  intro run
  cases request with
  | start =>
    obtain ⟨answer, silent, kept⟩ := start_calls tallies
    have started : RequestCalls outside config symbols models held .start run.answer
        (effectsOf run.record) held := by
      rw [show run.answer = _ from answer, show effectsOf run.record = _ from silent]
      exact .start held
    exact ⟨held, started, kept⟩
  | audio samples =>
    have ran : run = _ := Action.wrapFailure_done ..
    rw [ran]
    exact (acceptAudio_calls outside samples stage).request tallies
  | reset => exact reset_calls outside tallies

end Obey

/-! ## Runs -/

/-- The calls and messages of a row of turns, from what the session holds to what it holds
then. -/
inductive Traced (outside : Collaborators World) (config : Config) (symbols : SymbolTable)
    (models : Models) :
    Holding → List (Turn SessionRequest (Stage World) Failure Unit) → Holding → Prop where
  | nil (held : Holding) : Traced outside config symbols models held [] held
  | cons {held held' held'' : Holding} {turn : Turn SessionRequest (Stage World) Failure Unit}
      {others : List (Turn SessionRequest (Stage World) Failure Unit)}
      (request : RequestCalls outside config symbols models held turn.request turn.outcome.answer
        (effectsOf turn.outcome.record) held')
      (rest : Traced outside config symbols models held' others held'') :
      Traced outside config symbols models held (turn :: others) held''

section Traced

variable {outside : Collaborators World} {config : Config} {symbols : SymbolTable}
  {models : Models} {held held' : Holding}
  {first second : List (Turn SessionRequest (Stage World) Failure Unit)}

theorem turns_traced (outside : Collaborators World) {stage : Stage World}
    (tallies : stage.session.Tallies config symbols models held)
    (requests : List SessionRequest) :
    ∃ held', Traced outside config symbols models held (turns (Session.obey outside) stage requests)
      held' := by
  induction requests generalizing stage held with
  | nil => exact ⟨held, .nil held⟩
  | cons request others ih =>
    obtain ⟨held', calls, kept⟩ := obey_calls outside request tallies
    obtain ⟨held'', rest⟩ := ih kept
    exact ⟨held'', .cons calls rest⟩

/-- A row of turns in two parts is traced in two parts. -/
theorem Traced.of_append
    (traced : Traced outside config symbols models held (first ++ second) held') :
    ∃ middle, Traced outside config symbols models held first middle ∧
      Traced outside config symbols models middle second held' := by
  induction first generalizing held with
  | nil => exact ⟨held, .nil held, traced⟩
  | cons turn first ih =>
    cases traced with
    | cons request rest =>
      obtain ⟨middle, before, after⟩ := ih rest
      exact ⟨middle, .cons request before, after⟩

/-- Every turn of a traced row has the calls of its request. -/
theorem Traced.request_of_mem (traced : Traced outside config symbols models held first held')
    {turn : Turn SessionRequest (Stage World) Failure Unit} (member : turn ∈ first) :
    ∃ held held', RequestCalls outside config symbols models held turn.request turn.outcome.answer
      (effectsOf turn.outcome.record) held' := by
  induction traced with
  | nil => cases member
  | cons request _ ih =>
    rcases List.mem_cons.mp member with rfl | later
    · exact ⟨_, _, request⟩
    · exact ih later

/-- Whatever was held before, nothing has been accepted when a session has started over. -/
theorem Traced.accepted_of_reset {reset : Turn SessionRequest (Stage World) Failure Unit}
    (traced : Traced outside config symbols models held (first ++ [reset]) held')
    (again : reset.request = .reset) : held'.accepted = 0 := by
  obtain ⟨middle, _, last⟩ := traced.of_append
  cases last with
  | cons request rest =>
    cases rest
    rw [again] at request
    generalize reset.outcome.answer = answer, effectsOf reset.outcome.record = calls at request
    cases request with
    | @reset _ _ _ built =>
      cases built <;> rfl

/-- A request that does not start over moves the count of accepted chunks along. -/
theorem RequestCalls.paced {request : SessionRequest} {answer : Except Failure Unit}
    {calls : List Event}
    (traced : RequestCalls outside config symbols models held request answer calls held')
    (goesOn : request ≠ .reset) :
    held'.accepted = held.accepted + acceptedIn calls ∧
      Paced config models.nativeRate held.accepted calls := by
  cases traced with
  | start | dropped | released => exact ⟨rfl, rfl⟩
  | decoded samples sizes row counted =>
    obtain ⟨_, _, _, paced⟩ := row.moves sizes rfl
    exact ⟨counted, paced⟩
  | reset => exact absurd rfl goesOn

/-- A call that fails is the last of its request. -/
theorem RequestCalls.failsLast {request : SessionRequest} {answer : Except Failure Unit}
    {calls : List Event}
    (traced : RequestCalls outside config symbols models held request answer calls held') :
    FailsLast symbols (answer.isOk = false) calls := by
  cases traced with
  | start | dropped | released => exact .of_none (List.forall_mem_nil _)
  | @decoded _ _ _ _ _ answer _ _ sizes row =>
    refine row.failsLast.mono fun failed => ?_
    cases answer with
    | error => rfl
    | ok => cases failed
  | @reset _ letGo building built lets builds =>
    have before : FailsLast symbols False letGo := by
      refine .of_none ?_
      cases lets <;> simp [Event.Fails]
    have restarted : FailsLast symbols False [.call .restartClock] :=
      .of_none (by simp [Event.Fails])
    refine before.append (restarted.append ?_)
    cases builds with
    | noEngine => exact ⟨List.pairwise_singleton .., fun _ _ _ => rfl⟩
    | noFeed _ step =>
      refine .of_none ((forall_mem_effectsOf fun _ => id).mpr ?_)
      exact List.forall_mem_cons.mpr ⟨id, List.forall_mem_append.mpr
        ⟨fun event member => Event.not_fails_of_isFeeding (step.feeding event member),
          List.forall_mem_singleton.mpr id⟩⟩
    | made _ step =>
      refine .of_none ((forall_mem_effectsOf fun _ => id).mpr ?_)
      exact List.forall_mem_cons.mpr
        ⟨id, fun event member => Event.not_fails_of_isFeeding (step.feeding event member)⟩

/-- What is noted in the log does not matter for how the clock is waited for. -/
theorem paced_effectsOf {nativeRate : Float32} {accepted : Nat} {record : List Event} :
    Paced config nativeRate accepted (effectsOf record) ↔
      Paced config nativeRate accepted record := by
  have counts : acceptedIn (effectsOf record) = acceptedIn record := by
    rw [← acceptedIn_landmarksOf, landmarksOf_effectsOf, acceptedIn_landmarksOf]
  have waits : waitsOf (effectsOf record) = waitsOf record := by
    rw [waitsOf, effectsOf, List.filterMap_filter]
    refine List.filterMap_congr fun event _ => ?_
    cases event <;> rfl
  rw [Paced, Paced, counts, waits]

/-- **As long as a session does not start over, the waits count the accepted chunks.** -/
theorem Traced.paced (traced : Traced outside config symbols models held first held')
    (goesOn : ∀ turn ∈ first, turn.request ≠ .reset) :
    Paced config models.nativeRate held.accepted
      (first.flatMap fun turn => turn.outcome.record) := by
  induction traced with
  | nil => rfl
  | cons request _ ih =>
    obtain ⟨counted, paced⟩ := request.paced (goesOn _ (List.mem_cons_self ..))
    have rest := ih fun turn member => goesOn turn (List.mem_cons_of_mem _ member)
    rw [counted] at rest
    rw [← paced_effectsOf, List.flatMap_cons, effectsOf_append]
    exact paced.append (paced_effectsOf.mpr rest)

end Traced

/-- **The calls of a session.**  From when it is built, the calls of every run are those of its
requests, one after the other (`Traced`).  A call that fails is the last of its request.  From one
building to the next the clock is waited for once with each chunk that is accepted, until the end
of the first, the second, and so on, as computed from the exact count of their samples while that
can be counted in a word. -/
theorem session_calls (outside : Collaborators World) (models : Models) (symbols : SymbolTable)
    (config : Config) (world : World) (requests : List SessionRequest) :
    let creation := Session.create outside models symbols config world
    ∀ session, creation.answer = .ok session →
      let history := turns (Session.obey outside) ⟨creation.state, session⟩ requests
      ∃ resources building last, session.resources = some resources ∧
        BuildStep outside models config (.ok resources) building ∧
        effectsOf creation.record = .call .restartClock :: effectsOf building ∧
        Traced outside config symbols models (some (resources.engine, .zero)) history last ∧
        (∀ turn ∈ history, ∀ before call after,
          effectsOf turn.outcome.record = before ++ call :: after → call.Fails symbols →
            after = [] ∧ turn.outcome.answer.isOk = false) ∧
        (∀ before stretch after, history = before ++ stretch ++ after →
          (before = [] ∨ ∃ earlier reset, before = earlier ++ [reset] ∧ reset.request = .reset) →
          (∀ turn ∈ stretch, turn.request ≠ .reset) →
            let record := stretch.flatMap fun turn => turn.outcome.record
            waitsOf record =
              (List.range' 1 (acceptedIn record)).map (chunkSeconds config models.nativeRate)) ∧
        ∀ count, count * config.chunkCapacity models.nativeRate < Nat.pow 2 63 →
          chunkSeconds config models.nativeRate count =
            Number.nearest Float false (count * config.chunkCapacity models.nativeRate) 1 /
              models.nativeRate.toFloat := by
  intro creation session created history
  obtain ⟨built, building, builds, answer, notices, record⟩ :=
    create_step outside models symbols config world
  rw [show (Session.create outside models symbols config world).answer = _ from created] at answer
  cases built with
  | error => cases answer
  | ok resources =>
    obtain rfl : session = .fresh config symbols models (some resources) := Except.ok.inj answer
    have tallies : (Stage.mk creation.state
        (.fresh config symbols models (some resources))).session.Tallies config symbols models
          (some (resources.engine, .zero)) := ⟨rfl, rfl, rfl, builds.heldAs⟩
    obtain ⟨last, traced⟩ := turns_traced outside tallies requests
    refine ⟨resources, building, last, rfl, builds, ?_, traced, ?_, ?_, fun count fits =>
      chunkSeconds_eq config models.nativeRate fits⟩
    · rw [show creation.record = _ from record, ← List.singleton_append, effectsOf_append,
        effectsOf_append, effectsOf_notices, List.append_nil]
      rfl
    · intro turn member before call after parts fails
      obtain ⟨held, held', request⟩ := traced.request_of_mem member
      exact request.failsLast.of_split parts fails
    · intro before stretch after parts begins goesOn
      rw [show turns _ _ _ = _ from parts, List.append_assoc] at traced
      obtain ⟨middle, early, late⟩ := traced.of_append
      obtain ⟨_, within, _⟩ := late.of_append
      have new : middle.accepted = 0 := by
        rcases begins with rfl | ⟨earlier, reset, rfl, again⟩
        · cases early
          rfl
        · exact early.accepted_of_reset again
      have paced := within.paced goesOn
      rw [new] at paced
      exact paced

/-- Two chunks of one second each are waited for, one after the other. -/
theorem session_calls_small :
    let outside := (Rehearsal.smallScript none [1]).collaborators
    let creation := Session.create outside Rehearsal.smallModels Rehearsal.smallSymbols
      (Rehearsal.smallConfig 1.0) .initial
    let history := turns (Session.obey outside) ⟨creation.state, Rehearsal.smallSession 1.0⟩
      [.start, .audio [0.5], .audio [0.25]]
    let record := history.flatMap fun turn => turn.outcome.record
    creation.answer = .ok (Rehearsal.smallSession 1.0) ∧
      waitsOf record = [1, 2].map (chunkSeconds (Rehearsal.smallConfig 1.0) 1.0) := by
  intro outside creation history record
  have created : creation.answer = .ok (Rehearsal.smallSession 1.0) := rfl
  obtain ⟨resources, building, last, _, _, _, traced, _, waits, _⟩ :=
    session_calls outside Rehearsal.smallModels Rehearsal.smallSymbols
      (Rehearsal.smallConfig 1.0) .initial [.start, .audio [0.5], .audio [0.25]]
      (Rehearsal.smallSession 1.0) created
  have accepted : acceptedIn record = 2 := by decide +kernel
  refine ⟨created, (waits [] history [] (List.append_nil _).symm (.inl rfl) ?_).trans ?_⟩
  · intro turn member
    rcases List.mem_cons.mp member with rfl | member
    · nofun
    rcases List.mem_cons.mp member with rfl | member
    · nofun
    cases List.mem_singleton.mp member
    nofun
  · rw [show acceptedIn _ = 2 from accepted]
    rfl

end LiveSpeech
