import LiveSpeech.Proofs.Interleaving

/-!
# The run that reads ahead

`serve` says what a host comes to whose input is all there from the beginning: reading goes on
as long as there is room in the queue, and only then is a message handled.  It is one of the
orders in which the steps of a host may follow on one another (`serve_ends`).  So it writes and
ends as all of them do where the order has no say (`serve_eq_handleAll`); where a line cannot be
read the order matters, and `serve` is the run that has handled as little as possible.
-/

namespace LiveSpeech

set_option autoImplicit false

variable {World : Type} {outside : Collaborators World} {world : World}

namespace Host

theorem Reaches.trans {first middle last : Host World} (before : Reaches outside first middle)
    (after : Reaches outside middle last) : Reaches outside first last := by
  induction after with
  | refl => exact before
  | step _ next ih => exact .step ih next

/-- From this host on there is a run that writes more and ends so. -/
def ComesTo (outside : Collaborators World) (host : Host World) (more : List UInt8)
    (result : Except HostError Unit) : Prop :=
  ∃ last, Reaches outside host last ∧ last.output = host.output ++ more ∧
    last.result = some result

variable {host middle : Host World} {sent more : List UInt8} {result : Except HostError Unit}

theorem ComesTo.after (comes : ComesTo outside middle more result)
    (reaches : Reaches outside host middle) (written : middle.output = host.output ++ sent) :
    ComesTo outside host (sent ++ more) result := by
  obtain ⟨last, rest, output, ends⟩ := comes
  exact ⟨last, reaches.trans rest, by rw [output, written, List.append_assoc], ends⟩

/-- Steps that write nothing. -/
theorem ComesTo.of_silent (comes : ComesTo outside middle more result)
    (reaches : Reaches outside host middle) (written : middle.output = host.output) :
    ComesTo outside host more result :=
  comes.after reaches (written.trans (List.append_nil _).symm)

/-- What waits to be written is written, if no line is held. -/
theorem reaches_written (open_ : host.result = none) (free : ∀ text, host.reader ≠ .holding text) :
    Reaches outside host { host with
      outbound := []
      output := host.output ++ host.outbound.flatMap ServerMessage.line } := by
  obtain ⟨lines, reader, waiting, worker, outbound, output, result⟩ := host
  induction outbound generalizing output with
  | nil =>
    simp only [List.flatMap_nil, List.append_nil]
    exact .refl _
  | cons message outbound ih =>
    have written := (ih (output ++ message.line) open_ free).head (.write open_ free rfl)
    simpa only [List.flatMap_cons, List.append_assoc] using written

/-- A worker that has ended ends the host, once everything is written. -/
theorem comesTo_of_stopped (open_ : host.result = none) (closed : host.reader = .closed)
    (stopped : host.worker = .ended result) :
    ComesTo outside host (host.outbound.flatMap ServerMessage.line) result := by
  have free : ∀ text, host.reader ≠ .holding text := by simp [closed]
  exact ⟨_, (reaches_written open_ free).step (.finish open_ free stopped rfl), rfl, rfl⟩

end Host

/-! ## One message -/

section OneMessage

variable {text : List UInt8} {protocol : Protocol World}

/-- The worker handles a message and goes on. -/
theorem Host.Step.work_ok {host : Host World} {others : List (List UInt8)}
    (alive : host.worker = .running protocol) (next : host.inbound = text :: others)
    (answered : (Protocol.handleText outside text protocol).answer = .ok ()) :
    Step outside host { host with
      inbound := others
      worker := .running (Protocol.handleText outside text protocol).state
      outbound := host.outbound ++
        messagesOf (Protocol.handleText outside text protocol).record } := by
  have worked : Step outside host _ := .work alive next
  simpa only [workerAfter, answered] using worked

/-- The worker ends with a message that fails. -/
theorem Host.Step.work_error {host : Host World} {others : List (List UInt8)} {failure : Failure}
    (alive : host.worker = .running protocol) (next : host.inbound = text :: others)
    (failed : (Protocol.handleText outside text protocol).answer = .error failure) :
    Step outside host { host with
      inbound := others
      worker := .ended (.error (.ofFailure failure))
      outbound := host.outbound ++
        messagesOf (Protocol.handleText outside text protocol).record } := by
  have worked : Step outside host _ := .work alive next
  simpa only [workerAfter, failed] using worked

variable (rest : Protocol World → Service World)

theorem serveText_of_ok
    (answered : (Protocol.handleText outside text protocol).answer = .ok ()) :
    serveText outside text protocol rest =
      (rest (Protocol.handleText outside text protocol).state).after
        (Protocol.handleText outside text protocol).record := by
  simp only [serveText, answered]

theorem serveText_of_error {failure : Failure}
    (failed : (Protocol.handleText outside text protocol).answer = .error failure) :
    (serveText outside text protocol rest).output =
        writtenLines (Protocol.handleText outside text protocol).record ∧
      (serveText outside text protocol rest).result = .error (.ofFailure failure) := by
  simp only [serveText, failed]
  exact ⟨List.append_nil _, rfl⟩

end OneMessage

/-! ## The rest of the lines -/

namespace Host

/-- A host with everything written that has been sent. -/
def upToDate (lines : List HostLine) (reader : Reader) (waiting : List (List UInt8))
    (protocol : Protocol World) (output : List UInt8) : Host World :=
  ⟨lines, reader, waiting, .running protocol, [], output, none⟩

/-- When nothing more is read, the lines that wait are handled and answered. -/
theorem comesTo_serveWaiting (lines : List HostLine) (waiting : List (List UInt8))
    (protocol : Protocol World) (output : List UInt8) :
    ComesTo outside (upToDate lines .closed waiting protocol output)
      (serveWaiting outside waiting protocol).output
      (serveWaiting outside waiting protocol).result := by
  induction waiting generalizing protocol output with
  | nil =>
    exact (comesTo_of_stopped rfl rfl rfl).of_silent (.step (.refl _) (.rest rfl rfl rfl)) rfl
  | cons text others ih =>
    cases answered : (Protocol.handleText outside text protocol).answer with
    | ok _ =>
      rw [serveWaiting, serveText_of_ok _ answered]
      exact (ih _ _).after
        (((Reaches.refl _).step (.work_ok rfl rfl answered)).trans (reaches_written rfl nofun)) rfl
    | error failure =>
      obtain ⟨written, ends⟩ := serveText_of_error (serveWaiting outside others) answered
      rw [serveWaiting, written, ends]
      exact (comesTo_of_stopped rfl rfl rfl).of_silent
        ((Reaches.refl _).step (.work_error rfl rfl answered)) rfl

theorem length_concat_le {waiting : List (List UInt8)} {text : List UInt8}
    (room : waiting.length < inboundLimit) : (waiting ++ [text]).length ≤ inboundLimit := by
  rw [List.length_append]
  exact room

/-- A line is read and enters the queue, if there is room. -/
theorem reaches_delivered {lines : List HostLine} {text : List UInt8}
    {waiting : List (List UInt8)} (room : waiting.length < inboundLimit)
    (protocol : Protocol World) (output : List UInt8) :
    Reaches outside (upToDate (.message text :: lines) .reading waiting protocol output)
      (upToDate lines .reading (waiting ++ [text]) protocol output) :=
  ((Reaches.refl _).step (.read rfl rfl rfl)).step (.deliver rfl rfl room rfl)

/-- Reading as far ahead as the queue allows is a way to serve lines. -/
theorem comesTo_serveLines (lines : List HostLine) {waiting : List (List UInt8)}
    (bounded : waiting.length ≤ inboundLimit) (protocol : Protocol World) (output : List UInt8) :
    ComesTo outside (upToDate lines .reading waiting protocol output)
      (serveLines outside lines waiting protocol).output
      (serveLines outside lines waiting protocol).result := by
  induction lines generalizing waiting protocol output with
  | nil =>
    rw [serveLines]
    exact (comesTo_serveWaiting [] waiting protocol output).of_silent
      (.step (.refl _) (.endOfInput rfl rfl rfl)) rfl
  | cons line lines ih =>
    cases line with
    | blank =>
      rw [serveLines]
      exact (ih bounded protocol output).of_silent (.step (.refl _) (.skip rfl rfl rfl)) rfl
    | unreadable =>
      rw [serveLines]
      exact ⟨_, .step (.refl _) (.unreadable rfl rfl rfl), (List.append_nil _).symm, rfl⟩
    | message text =>
      cases waiting with
      | nil =>
        rw [serveLines]
        have room : ([] : List (List UInt8)).length < inboundLimit := by decide
        exact (ih (length_concat_le room) protocol output).of_silent
          (reaches_delivered room protocol output) rfl
      | cons first others =>
        rw [serveLines]
        split
        · next room =>
          exact (ih (length_concat_le room) protocol output).of_silent
            (reaches_delivered room protocol output) rfl
        · -- The line is held until the worker has made room.
          have room : others.length < inboundLimit := bounded
          have held : Reaches outside
              (upToDate (.message text :: lines) .reading (first :: others) protocol output)
              (upToDate lines (.holding text) (first :: others) protocol output) :=
            (Reaches.refl _).step (.read rfl rfl rfl)
          cases answered : (Protocol.handleText outside first protocol).answer with
          | ok _ =>
            rw [serveText_of_ok _ answered]
            have delivered := (held.step (.work_ok rfl rfl answered)).step
              (.deliver rfl rfl room rfl)
            exact (ih (length_concat_le room) _ _).after
              (delivered.trans (reaches_written rfl nofun)) rfl
          | error failure =>
            obtain ⟨written, ends⟩ := serveText_of_error
              (serveLines outside lines (others ++ [text])) answered
            rw [written, ends]
            have closed := (held.step (.work_error rfl rfl answered)).step
              (.undelivered rfl rfl rfl)
            exact (comesTo_of_stopped rfl rfl rfl).of_silent closed rfl

end Host

/-! ## The whole stream -/

/-- **What `serve` writes and how it ends** is something that a host may write and end with. -/
theorem serve_ends (outside : Collaborators World) (world : World) (input : List UInt8) :
    Host.Ends outside world input (serve outside world input).output
      (serve outside world input).result := by
  have comes : Host.ComesTo outside (.initial world input) _ _ :=
    Host.comesTo_serveLines (hostLines input) (Nat.zero_le _) (.initial world) []
  exact comes

/-- **If every line can be read**, `serve` writes what the messages send when they are handled
one by one, and fails if one of them does. -/
theorem serve_eq_handleAll (outside : Collaborators World) (world : World) {input : List UInt8}
    (readable : .unreadable ∉ hostLines input) :
    let handled := Protocol.handleAll outside (textsOf (hostLines input)) (.initial world)
    (serve outside world input).output = writtenLines handled.record ∧
      (serve outside world input).result = handled.answer.mapError .ofFailure :=
  (Host.ends_iff readable).mp (serve_ends outside world input)

end LiveSpeech
