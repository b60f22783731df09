import LiveSpeech.Proofs.Operations
import LiveSpeech.Proofs.Stream
import LiveSpeech.Rehearsal.Small

/-!
# Audio in fragments

Where a stretch of audio is divided into fragments makes no difference to what is done with it:
the same calls are made in the same order, the same messages are sent, and the same session is
left, except for its resampler and for what is noted in the log (`AudioAlike`).

One fragment after another is compared with both as one (`acceptAudio_append`).  If the
utterance goes on the second fragment finds the session as the first row of chunks has left it.
If the utterance ends, or decoding fails, the one call leaves its remaining chunks, and the
other calls do nothing.  A row of fragments is then compared with all of its samples at once
(`acceptAll_alike_flatten`), and so with any other row of the same samples.
-/

namespace LiveSpeech

set_option autoImplicit false

open LiveSpeech.Audio

variable {World : Type}

/-- Takes fragments one after the other until one fails, and answers with the count of all
decoding cycles. -/
def Session.acceptAll (outside : Collaborators World) :
    List (List Float32) → Action (Stage World) SessionError Nat
  | [] => .done 0
  | fragment :: others => do
    let cycles ← Session.acceptAudio outside fragment
    let more ← Session.acceptAll outside others
    return cycles + more

/-! ## Outcomes that are alike -/

/-- What resources are apart from the resampler. -/
def Resources.unresampled (resources : Resources) : Engine × Accumulator × TimingGate :=
  (resources.engine, resources.accumulator, resources.timing)

/-- Sessions that differ at most in their resamplers. -/
structure Session.Alike (first second : Session) : Prop where
  config : first.config = second.config
  symbols : first.symbols = second.symbols
  models : first.models = second.models
  resources : first.resources.map Resources.unresampled =
    second.resources.map Resources.unresampled
  state : first.state = second.state
  enabled : first.enabled = second.enabled
  endpointDetected : first.endpointDetected = second.endpointDetected

/-- Outcomes that differ at most in resamplers and in what is noted in the log. -/
structure AudioAlike (first second : Outcome (Stage World) SessionError Nat) : Prop where
  answer : first.answer = second.answer
  world : first.state.world = second.state.world
  session : first.state.session.Alike second.state.session
  effects : effectsOf first.record = effectsOf second.record

theorem Session.Alike.refl (session : Session) : session.Alike session :=
  ⟨rfl, rfl, rfl, rfl, rfl, rfl, rfl⟩

theorem Session.Alike.symm {first second : Session} (alike : first.Alike second) :
    second.Alike first :=
  ⟨alike.config.symm, alike.symbols.symm, alike.models.symm, alike.resources.symm,
    alike.state.symm, alike.enabled.symm, alike.endpointDetected.symm⟩

theorem Session.Alike.trans {first second third : Session} (alike : first.Alike second)
    (alike' : second.Alike third) : first.Alike third :=
  ⟨alike.config.trans alike'.config, alike.symbols.trans alike'.symbols,
    alike.models.trans alike'.models, alike.resources.trans alike'.resources,
    alike.state.trans alike'.state, alike.enabled.trans alike'.enabled,
    alike.endpointDetected.trans alike'.endpointDetected⟩

namespace AudioAlike

variable {first second third : Outcome (Stage World) SessionError Nat}

theorem refl (outcome : Outcome (Stage World) SessionError Nat) : AudioAlike outcome outcome :=
  ⟨rfl, rfl, .refl _, rfl⟩

theorem symm (alike : AudioAlike first second) : AudioAlike second first :=
  ⟨alike.answer.symm, alike.world.symm, alike.session.symm, alike.effects.symm⟩

theorem trans (alike : AudioAlike first second) (alike' : AudioAlike second third) :
    AudioAlike first third :=
  ⟨alike.answer.trans alike'.answer, alike.world.trans alike'.world,
    alike.session.trans alike'.session, alike.effects.trans alike'.effects⟩

/-- What comes behind the same action is alike if it is alike where that action leaves. -/
theorem bind (action : Action (Stage World) SessionError Nat)
    {next next' : Action (Stage World) SessionError Nat} {stage : Stage World}
    (alike : AudioAlike (next (action stage).state) (next' (action stage).state)) :
    AudioAlike ((do let cycles ← action; let more ← next; return cycles + more) stage)
      ((do let cycles ← action; let more ← next'; return cycles + more) stage) := by
  cases run : (action stage).answer with
  | error error =>
    rw [Action.bind_error run, Action.bind_error run]
    exact .refl _
  | ok cycles =>
    rw [Action.bind_ok run, Action.bind_ok run, Action.bind_pure_run, Action.bind_pure_run]
    refine ⟨congrArg (Except.map (cycles + ·)) alike.answer, alike.world, alike.session, ?_⟩
    simp [alike.effects]

end AudioAlike

/-! ## Two fragments -/

/-- Two fragments come to the frames of the first and then those of the second. -/
theorem Resources.frames_append (resources : Resources) (first second : List Float32) :
    resources.frames (first ++ second) =
      resources.frames first ++ (resources.fed first).frames second := by
  rw [frames, Resampler.feed_append, List.map_append]
  rfl

theorem Resources.fed_append (resources : Resources) (first second : List Float32) :
    resources.fed (first ++ second) = (resources.fed first).fed second := by
  rw [fed, Resampler.feed_append]
  rfl

/-- The resources after a fragment of which all chunks were decoded. -/
def Resources.heard (resources : Resources) (samples : List Float32) (timing : TimingGate) :
    Resources :=
  { resources.fed samples with accumulator := resources.rest samples, timing := timing }

theorem Resources.chunks_append (resources : Resources) (first second : List Float32)
    (timing : TimingGate) :
    resources.chunks (first ++ second) =
      resources.chunks first ++ (resources.heard first timing).chunks second := by
  rw [chunks, frames_append, Accumulator.cut_append]
  rfl

theorem Resources.rest_append (resources : Resources) (first second : List Float32)
    (timing : TimingGate) :
    resources.rest (first ++ second) = (resources.heard first timing).rest second := by
  rw [rest, frames_append, Accumulator.cut_append]
  rfl

/-- Whatever is left over, nothing of it is kept at the end of an utterance. -/
theorem Resources.drained_rest (resources : Resources) (samples : List Float32) :
    (resources.rest samples).drained = resources.accumulator.drained :=
  Accumulator.eq_of_held (Accumulator.cut_capacity ..) rfl

section Two

variable {outside : Collaborators World} {stage : Stage World} {resources : Resources}
  {first second : List Float32}

/-- Takes two fragments, one after the other. -/
def Session.acceptBoth (outside : Collaborators World) (first second : List Float32) :
    Action (Stage World) SessionError Nat := do
  let cycles ← Session.acceptAudio outside first
  let more ← Session.acceptAudio outside second
  return cycles + more

theorem acceptBoth_of_error {error : SessionError}
    (failed : (Session.acceptAudio outside first stage).answer = .error error) :
    Session.acceptBoth outside first second stage = Session.acceptAudio outside first stage := by
  refine (Action.bind_error failed _).trans ?_
  rw [← failed]

/-- Behind a fragment that has closed the session, or that found it closed, another is
dropped. -/
theorem acceptBoth_of_disabled {cycles : Nat}
    (accepted : (Session.acceptAudio outside first stage).answer = .ok cycles)
    (disabled : (Session.acceptAudio outside first stage).state.session.enabled = false) :
    Session.acceptBoth outside first second stage = Session.acceptAudio outside first stage := by
  refine (Action.bind_ok accepted _).trans ?_
  rw [Action.bind_pure_run, acceptAudio_of_disabled outside disabled]
  simp only [Outcome.after, List.append_nil]
  show Outcome.mk (.ok cycles) _ _ = _
  rw [← accepted]

theorem acceptBoth_of_ok {cycles : Nat}
    (accepted : (Session.acceptAudio outside first stage).answer = .ok cycles) :
    let before := Session.acceptAudio outside first stage
    let after := Session.acceptAudio outside second before.state
    Session.acceptBoth outside first second stage =
      ⟨after.answer.map (cycles + ·), after.state, before.record ++ after.record⟩ := by
  refine (Action.bind_ok accepted _).trans ?_
  rw [Action.bind_pure_run]
  rfl

/-- The row of two fragments as one is that of the first, and goes on behind it. -/
theorem row_append (outside : Collaborators World) (stage : Stage World) (resources : Resources)
    (first second : List Float32) (timing : TimingGate) :
    Session.row outside (resources.fed (first ++ second)) (resources.chunks (first ++ second))
        stage =
      (decodeChunks outside (stage.session.decoder resources) (resources.chunks first) >>=
        goOn outside (stage.session.decoder resources)
          ((resources.heard first timing).chunks second))
        ⟨stage.world, resources.timing, stage.session.endpointDetected⟩ := by
  rw [resources.chunks_append first second timing, ← decodeChunks_append]
  rfl

/-- If the row of the first fragment fails nothing of the second is decoded. -/
theorem acceptAudio_append_of_error (takes : stage.session.Takes resources) {error : SessionError}
    (failed : (Session.row outside (resources.fed first) (resources.chunks first) stage).answer =
      .error error) :
    AudioAlike (Session.acceptBoth outside first second stage)
      (Session.acceptAudio outside (first ++ second) stage) := by
  have early := acceptAudio_of_takes outside takes first
  rw [deliver_of_error failed] at early
  have row := (row_append outside stage resources first second resources.timing).trans
    (Action.bind_error failed _)
  rw [acceptBoth_of_error (by rw [early]), early, acceptAudio_of_takes outside takes,
    deliver_of_error (by rw [row]), row, Resources.drained_rest, Resources.drained_rest]
  exact ⟨rfl, rfl, ⟨rfl, rfl, rfl, rfl, rfl, rfl, rfl⟩, rfl⟩

/-- If the utterance ends with the first fragment the second is dropped. -/
theorem acceptAudio_append_of_ended (takes : stage.session.Takes resources) {cycles : Nat}
    {left : List (List Float32)}
    (ended : (Session.row outside (resources.fed first) (resources.chunks first) stage).answer =
      .ok (.ended cycles left)) :
    AudioAlike (Session.acceptBoth outside first second stage)
      (Session.acceptAudio outside (first ++ second) stage) := by
  have early := acceptAudio_of_takes outside takes first
  obtain ⟨notices, delivered⟩ := deliver_of_ended ended (resources.rest first)
  rw [delivered] at early
  have row := (row_append outside stage resources first second resources.timing).trans
    (Action.bind_ok ended _)
  obtain ⟨notices', delivered'⟩ := deliver_of_ended (congrArg Outcome.answer row)
    (resources.rest (first ++ second))
  rw [acceptBoth_of_disabled (by rw [early]) (by rw [early]; rfl), early,
    acceptAudio_of_takes outside takes, delivered', row, Resources.drained_rest,
    Resources.drained_rest]
  exact ⟨rfl, rfl, ⟨rfl, rfl, rfl, rfl, rfl, rfl, rfl⟩, by simp [goOn]; rfl⟩

/-- If all chunks of the first fragment are decoded the second is taken as it would be behind
them. -/
theorem acceptAudio_append_of_complete (takes : stage.session.Takes resources) {cycles : Nat}
    (complete : (Session.row outside (resources.fed first) (resources.chunks first) stage).answer =
      .ok (.complete cycles)) :
    AudioAlike (Session.acceptBoth outside first second stage)
      (Session.acceptAudio outside (first ++ second) stage) := by
  let cut := Session.row outside (resources.fed first) (resources.chunks first) stage
  have step := row_step outside (resources.fed first) (resources.chunks first) takes.lowered
  dsimp only at step
  rw [complete] at step
  let heard := resources.heard first cut.state.timing
  let middle : Stage World := ⟨cut.state.world, stage.session.keep (resources.fed first)
    (resources.rest first) cut.state.timing cut.state.endpointDetected⟩
  have takes' : middle.session.Takes heard := ⟨takes.enabled, rfl, (step.rowEnd rfl).lowered⟩
  have early : Session.acceptAudio outside first stage = ⟨.ok cycles, middle, cut.record⟩ :=
    (acceptAudio_of_takes outside takes first).trans (deliver_of_complete complete _)
  have late := acceptAudio_of_takes outside takes' second
  -- Behind the first row the other row is the same in both.
  let behind := Session.row outside (heard.fed second) (heard.chunks second) middle
  have whole : Session.row outside (resources.fed (first ++ second))
      (resources.chunks (first ++ second)) stage =
        ⟨behind.answer.map (Delivery.add cycles), behind.state, cut.record ++ behind.record⟩ :=
    (row_append outside stage resources first second cut.state.timing).trans
      ((Action.bind_ok complete _).trans (congrArg (Outcome.after _) (goOn_complete ..)))
  rw [acceptBoth_of_ok (by rw [early]), early, acceptAudio_of_takes outside takes,
    resources.rest_append first second cut.state.timing]
  dsimp only
  rw [late]
  cases answer : behind.answer with
  | error error =>
    rw [deliver_of_error answer, deliver_of_error (by rw [whole, answer]; rfl), whole,
      resources.fed_append]
    exact ⟨rfl, rfl, .refl _, rfl⟩
  | ok delivery =>
    cases delivery with
    | complete more =>
      rw [deliver_of_complete answer, deliver_of_complete (by rw [whole, answer]; rfl), whole,
        resources.fed_append]
      exact ⟨rfl, rfl, .refl _, rfl⟩
    | ended more left =>
      obtain ⟨notices, delivered⟩ := deliver_of_ended answer (heard.rest second)
      obtain ⟨notices', delivered'⟩ := deliver_of_ended
        (show _ = Except.ok (Delivery.ended (cycles + more) left) by rw [whole, answer]; rfl)
        (heard.rest second)
      rw [delivered, delivered', whole, resources.fed_append]
      exact ⟨rfl, rfl, .refl _, by simp [behind]⟩

/-- **Two fragments one after the other come to the same as both as one.** -/
theorem acceptAudio_append (outside : Collaborators World) (first second : List Float32)
    (stage : Stage World) :
    AudioAlike (Session.acceptBoth outside first second stage)
      (Session.acceptAudio outside (first ++ second) stage) := by
  cases enabled : stage.session.enabled with
  | false =>
    have ran := acceptAudio_of_disabled outside enabled
    rw [acceptBoth_of_disabled (by rw [ran]) (by rw [ran]; exact enabled), ran, ran]
    exact .refl _
  | true =>
    cases held : stage.session.resources with
    | none =>
      have ran := acceptAudio_of_released outside enabled held
      rw [acceptBoth_of_error (by rw [ran]), ran, ran]
      exact .refl _
    | some resources =>
      cases flag : stage.session.endpointDetected with
      | true =>
        have ran := acceptAudio_of_reported outside enabled held flag
        let next : Session := { stage.session with resources := some (resources.fed first) }
        have enabled' : (Stage.mk stage.world next).session.enabled = true := enabled
        have flag' : (Stage.mk stage.world next).session.endpointDetected = true := flag
        have again := acceptAudio_of_reported outside enabled' rfl flag' second
        rw [acceptBoth_of_ok (by rw [ran])]
        simp only [ran, Resources.fed_append]
        rw [again]
        exact ⟨rfl, rfl, .refl _, by simp⟩
      | false =>
        have takes : stage.session.Takes resources := ⟨enabled, held, flag⟩
        cases answer : (Session.row outside (resources.fed first) (resources.chunks first)
            stage).answer with
        | error error => exact acceptAudio_append_of_error takes answer
        | ok delivery =>
          cases delivery with
          | complete cycles => exact acceptAudio_append_of_complete takes answer
          | ended cycles left => exact acceptAudio_append_of_ended takes answer

end Two

/-! ## Any number of fragments -/

/-- A row of fragments comes to the same as all of its samples at once. -/
theorem acceptAll_alike_flatten (outside : Collaborators World) (fragment : List Float32)
    (others : List (List Float32)) (stage : Stage World) :
    AudioAlike (Session.acceptAll outside (fragment :: others) stage)
      (Session.acceptAudio outside (fragment :: others).flatten stage) := by
  induction others generalizing fragment stage with
  | nil =>
    have one : Session.acceptAll outside [fragment] = Session.acceptAudio outside fragment := by
      show (do let cycles ← Session.acceptAudio outside fragment; let more ← pure 0
               return cycles + more) = _
      simp only [pure_bind, Nat.add_zero, bind_pure]
    rw [one, List.flatten_singleton]
    exact .refl _
  | cons next others ih =>
    exact (AudioAlike.bind (Session.acceptAudio outside fragment) (ih next _)).trans
      (acceptAudio_append outside fragment (next :: others).flatten stage)

/-- **Two rows of fragments of the same samples are alike in all that is done with them.** -/
theorem acceptAll_alike (outside : Collaborators World) (stage : Stage World)
    {first second : List (List Float32)} (some : first ≠ []) (some' : second ≠ [])
    (same : first.flatten = second.flatten) :
    AudioAlike (Session.acceptAll outside first stage)
      (Session.acceptAll outside second stage) := by
  obtain ⟨fragment, others, rfl⟩ := List.exists_cons_of_ne_nil some
  obtain ⟨fragment', others', rfl⟩ := List.exists_cons_of_ne_nil some'
  have once := acceptAll_alike_flatten outside fragment others stage
  rw [same] at once
  exact once.trans (acceptAll_alike_flatten outside fragment' others' stage).symm

/-- Three samples with the end after the second, divided before and behind it. -/
theorem acceptAll_alike_small :
    let outside := (Rehearsal.smallScript (some 2) [1]).collaborators
    let stage := Rehearsal.smallStage 1.0
    [[0.5], [0.25, 0.125]] ≠ ([] : List (List Float32)) ∧
      [[0.5, 0.25], [], [0.125]] ≠ ([] : List (List Float32)) ∧
      [[0.5], [0.25, 0.125]].flatten = [[0.5, 0.25], [], [(0.125 : Float32)]].flatten ∧
      AudioAlike (Session.acceptAll outside [[0.5], [0.25, 0.125]] stage)
        (Session.acceptAll outside [[0.5, 0.25], [], [0.125]] stage) := by
  have some : [[0.5], [0.25, 0.125]] ≠ ([] : List (List Float32)) := List.cons_ne_nil _ _
  have some' : [[0.5, 0.25], [], [0.125]] ≠ ([] : List (List Float32)) := List.cons_ne_nil _ _
  exact ⟨some, some', rfl, acceptAll_alike _ _ some some' rfl⟩

end LiveSpeech
