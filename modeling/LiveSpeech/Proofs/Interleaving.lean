import LiveSpeech.Proofs.Serving
import LiveSpeech.Rehearsal.Small

/-!
# Side by side is one by one

Reading, handling and writing may follow on one another in any order that the queues allow.
What a host writes and how it ends do not depend on that order: both are what handling the
messages one by one comes to (`host_one_by_one`).

The order has no say because of what every step keeps (`Host.Accounts`): the bytes written and
the messages that wait to be written are together what the messages handled so far have sent,
and the messages handled, waiting and held are together what has been read.  A failure of the
worker leaves lines in the queue and in the input; they belong to neither side of the account.

A host never gets stuck before its end (`Host.exists_step`), and every order of steps comes to
an end (`Host.step_wellFounded`).  Reading is bounded by the input, and although one message may
send others, there are only as many messages to handle as have been read; so the steps that are
no writing run out first, and then what waits to be written does.
-/

namespace LiveSpeech

set_option autoImplicit false

variable {World : Type} {outside : Collaborators World} {world : World}

/-! ## The account -/

/-- The line that a reader holds. -/
def Reader.held : Reader → List (List UInt8)
  | .holding text => [text]
  | .reading | .closed => []

/-- What a reader may still do without reading on. -/
def Reader.pending : Reader → Nat
  | .reading => 1
  | .holding _ => 3
  | .closed => 0

/-- What a worker may still do without a line. -/
def Worker.pending : Worker World → Nat
  | .running _ => 1
  | .ended _ => 0

theorem Worker.pending_le (worker : Worker World) : worker.pending ≤ 1 := by
  cases worker <;> simp [pending]

namespace Host

/-- **The account of a host** that serves the given lines: what it has read and handled so far,
and what became of it. -/
structure Accounts (outside : Collaborators World) (world : World) (all read : List HostLine)
    (handled : List (List UInt8)) (host : Host World) : Prop where
  whole : all = read ++ host.input
  readable : .unreadable ∉ read
  /-- Nothing that was sent is lost, doubled or out of order. -/
  sent : host.output ++ host.outbound.flatMap ServerMessage.line =
    writtenLines (Protocol.handleAll outside handled (.initial world)).record
  running : ∀ protocol, host.worker = .running protocol →
    (Protocol.handleAll outside handled (.initial world)).answer = .ok () ∧
    (Protocol.handleAll outside handled (.initial world)).state = protocol ∧
    textsOf read = handled ++ host.inbound ++ host.reader.held ∧
    (host.reader = .closed → host.input = [])
  stopped : ∀ result, host.worker = .ended result →
    result = (Protocol.handleAll outside handled (.initial world)).answer.mapError .ofFailure ∧
    handled <+: textsOf read ∧
    (result = .ok () → host.input = [] ∧ handled = textsOf read)
  ended : ∀ result, host.result = some result →
    (host.worker = .ended result ∧ host.outbound = []) ∨
    (result = .error .unreadableInput ∧ host.reader = .reading ∧
      ∃ rest, host.input = .unreadable :: rest)

theorem accounts_ofLines (outside : Collaborators World) (world : World)
    (lines : List HostLine) : Accounts outside world lines [] [] (ofLines world lines) where
  whole := rfl
  readable := List.not_mem_nil
  sent := rfl
  running _ alive := ⟨rfl, Worker.running.inj alive, rfl, nofun⟩
  stopped := nofun
  ended := nofun

/-- A worker that goes on after a line has handled it. -/
theorem eq_of_workerAfter_running {outcome : Outcome (Protocol World) Failure Unit}
    {protocol : Protocol World} (alive : workerAfter outcome = .running protocol) :
    outcome.answer = .ok () ∧ outcome.state = protocol := by
  cases answered : outcome.answer with
  | ok _ =>
    rw [workerAfter, answered] at alive
    exact ⟨rfl, Worker.running.inj alive⟩
  | error failure =>
    rw [workerAfter, answered] at alive
    cases alive

/-- A worker that ends after a line ends with its failure. -/
theorem eq_of_workerAfter_ended {outcome : Outcome (Protocol World) Failure Unit}
    {result : Except HostError Unit} (stopped : workerAfter outcome = .ended result) :
    ∃ failure, outcome.answer = .error failure ∧ result = .error (.ofFailure failure) := by
  cases answered : outcome.answer with
  | ok _ =>
    rw [workerAfter, answered] at stopped
    cases stopped
  | error failure =>
    rw [workerAfter, answered] at stopped
    exact ⟨failure, rfl, (Worker.ended.inj stopped).symm⟩

variable {all read : List HostLine} {handled : List (List UInt8)} {host after : Host World}

/-- The messages that have been handled are the first of those that have been read. -/
theorem Accounts.handled_before (accounts : Accounts outside world all read handled host) :
    handled <+: textsOf read := by
  cases worker : host.worker with
  | running protocol =>
    obtain ⟨-, -, texts, -⟩ := accounts.running protocol worker
    exact ⟨_, by rw [texts, List.append_assoc]⟩
  | ended result => exact (accounts.stopped result worker).2.1

/-- What the account says when the worker has handled one more message. -/
theorem Accounts.work (accounts : Accounts outside world all read handled host)
    {text : List UInt8} {rest : List (List UInt8)} {protocol : Protocol World}
    (alive : host.worker = .running protocol) (next : host.inbound = text :: rest) :
    Accounts outside world all read (handled ++ [text]) { host with
      inbound := rest
      worker := workerAfter (Protocol.handleText outside text protocol)
      outbound := host.outbound ++
        messagesOf (Protocol.handleText outside text protocol).record } := by
  obtain ⟨answered, rfl, texts, closed⟩ := accounts.running protocol alive
  have more : textsOf read = handled ++ [text] ++ rest ++ host.reader.held := by
    rw [texts, next, List.append_cons]
  have now := handleAll_concat_of_ok answered text
  refine ⟨accounts.whole, accounts.readable, ?_, ?_, ?_, ?_⟩
  · rw [now, Outcome.after_record, writtenLines_append, ← accounts.sent, List.flatMap_append,
      List.append_assoc]
    rfl
  · intro after alive'
    obtain ⟨answered', rfl⟩ := eq_of_workerAfter_running alive'
    exact ⟨by rw [now]; exact answered', by rw [now]; rfl, more, closed⟩
  · intro result stopped
    obtain ⟨failure, failed, rfl⟩ := eq_of_workerAfter_ended stopped
    refine ⟨by rw [now, Outcome.after_answer, failed]; rfl, ?_, nofun⟩
    exact ⟨rest ++ host.reader.held, (List.append_assoc ..).symm.trans more.symm⟩
  · intro result ends
    rcases accounts.ended result ends with ⟨stopped, _⟩ | unread
    · exact nomatch alive.symm.trans stopped
    · exact .inr unread

/-- What the account says when one more line has been read. -/
theorem Accounts.take (accounts : Accounts outside world all read handled host)
    {line : HostLine} {rest : List HostLine} {reader : Reader} (open_ : host.result = none)
    (reading : host.reader = .reading) (next : host.input = line :: rest)
    (isText : line ≠ .unreadable) (held : reader.held = textsOf [line])
    (more : reader ≠ .closed) :
    Accounts outside world all (read ++ [line]) handled
      { host with input := rest, reader := reader } where
  whole := by rw [accounts.whole, next, List.append_cons]
  readable := by
    intro member
    rcases List.mem_append.mp member with earlier | last
    · exact accounts.readable earlier
    · exact isText (List.mem_singleton.mp last).symm
  sent := accounts.sent
  running protocol alive := by
    obtain ⟨answered, left, texts, _⟩ := accounts.running protocol alive
    refine ⟨answered, left, ?_, fun closed => absurd closed more⟩
    rw [textsOf_append, texts, reading, held]
    exact congrArg (· ++ textsOf [line]) (List.append_nil _)
  stopped result stopped := by
    obtain ⟨failed, before, whole⟩ := accounts.stopped result stopped
    refine ⟨failed, ?_, fun answered => ?_⟩
    · rw [textsOf_append]
      exact before.trans (List.prefix_append _ _)
    · exact nomatch next.symm.trans (whole answered).1
  ended _ ends := nomatch open_.symm.trans ends

/-- **Every step keeps the account.** -/
theorem Accounts.step (accounts : Accounts outside world all read handled host)
    (next : Step outside host after) :
    ∃ read' handled', Accounts outside world all read' handled' after := by
  cases next with
  | @skip rest open_ reading next =>
    refine ⟨read ++ [.blank], handled, ?_⟩
    show Accounts outside world all _ handled { host with input := rest, reader := host.reader }
    exact accounts.take open_ reading next nofun (by rw [reading]; rfl) (by rw [reading]; nofun)
  | read open_ reading next =>
    exact ⟨_, _, accounts.take open_ reading next nofun rfl nofun⟩
  | deliver open_ held room alive =>
    refine ⟨read, handled, { accounts with
      running := fun protocol alive => ?_
      ended := fun result ends => nomatch open_.symm.trans ends }⟩
    obtain ⟨answered, left, texts, _⟩ := accounts.running protocol alive
    refine ⟨answered, left, ?_, nofun⟩
    rw [texts, held]
    simp only [Reader.held, List.append_assoc, List.append_nil]
  | undelivered open_ held stopped =>
    refine ⟨read, handled, { accounts with
      running := fun protocol alive => ?_
      ended := fun result ends => nomatch open_.symm.trans ends }⟩
    exact absurd (stopped.symm.trans alive) nofun
  | endOfInput open_ reading next =>
    refine ⟨read, handled, { accounts with
      running := fun protocol alive => ?_
      ended := fun result ends => nomatch open_.symm.trans ends }⟩
    obtain ⟨answered, left, texts, _⟩ := accounts.running protocol alive
    rw [reading] at texts
    exact ⟨answered, left, texts, fun _ => next⟩
  | unreadable open_ reading next =>
    refine ⟨read, handled,
      { accounts with ended := fun result ends => .inr ⟨?_, reading, _, next⟩ }⟩
    exact (Option.some.inj ends).symm
  | work alive next => exact ⟨_, _, accounts.work alive next⟩
  | rest alive next closed =>
    obtain ⟨answered, _, texts, whole⟩ := accounts.running _ alive
    rw [next, closed, Reader.held, List.append_nil, List.append_nil] at texts
    refine ⟨read, handled, { accounts with
      running := fun protocol alive => absurd alive nofun
      stopped := fun result stopped => ?_
      ended := fun result ends => ?_ }⟩
    · obtain rfl := Worker.ended.inj stopped
      exact ⟨by rw [answered]; rfl, texts ▸ List.prefix_rfl, fun _ =>
        ⟨whole closed, texts.symm⟩⟩
    · rcases accounts.ended result ends with ⟨stopped, _⟩ | unread
      · exact nomatch alive.symm.trans stopped
      · exact .inr unread
  | write open_ free next =>
    refine ⟨read, handled, { accounts with
      sent := ?_
      ended := fun result ends => nomatch open_.symm.trans ends }⟩
    rw [← accounts.sent, next, List.flatMap_cons, List.append_assoc]
  | finish open_ free stopped written =>
    refine ⟨read, handled, { accounts with ended := fun result ends => .inl ⟨?_, written⟩ }⟩
    rw [← Option.some.inj ends]
    exact stopped

/-- In every run the account is kept. -/
theorem Reaches.accounts_of_lines {lines : List HostLine}
    (reaches : Reaches outside (ofLines world lines) host) :
    ∃ read handled, Accounts outside world lines read handled host := by
  generalize begin : ofLines world lines = first at reaches
  induction reaches with
  | refl =>
    rw [← begin]
    exact ⟨[], [], accounts_ofLines outside world lines⟩
  | step _ next ih =>
    obtain ⟨_, _, accounts⟩ := ih
    exact accounts.step next

theorem Reaches.accounts {input : List UInt8}
    (reaches : Reaches outside (.initial world input) host) :
    ∃ read handled, Accounts outside world (hostLines input) read handled host :=
  reaches.accounts_of_lines

/-! ## What a host has done when it has ended -/

/-- What has been written is the beginning of what is written when more messages are handled. -/
theorem Accounts.output_before_of (accounts : Accounts outside world all read handled host)
    {texts : List (List UInt8)} (sofar : handled <+: texts) :
    host.output <+: writtenLines (Protocol.handleAll outside texts (.initial world)).record := by
  obtain ⟨more, rfl⟩ := sofar
  have written : host.output <+:
      writtenLines (Protocol.handleAll outside handled (.initial world)).record :=
    ⟨_, accounts.sent⟩
  exact written.trans (writtenLines_before (record_handleAll_before handled more))

/-- What has been written is the beginning of what is written in the end. -/
theorem Accounts.output_before (accounts : Accounts outside world all read handled host) :
    host.output <+:
      writtenLines (Protocol.handleAll outside (textsOf all) (.initial world)).record := by
  refine accounts.output_before_of (accounts.handled_before.trans ?_)
  rw [accounts.whole, textsOf_append]
  exact List.prefix_append _ _

/-- What the worker has handled when it ends is all there was to be handled. -/
theorem Accounts.handleAll_of_stopped (accounts : Accounts outside world all read handled host)
    {result : Except HostError Unit} (stopped : host.worker = .ended result) :
    Protocol.handleAll outside handled (.initial world) =
      Protocol.handleAll outside (textsOf all) (.initial world) := by
  obtain ⟨rfl, before, whole⟩ := accounts.stopped result stopped
  cases answered : (Protocol.handleAll outside handled (.initial world)).answer with
  | ok _ =>
    rw [answered] at whole
    obtain ⟨consumed, texts⟩ := whole rfl
    rw [accounts.whole, consumed, List.append_nil, texts]
  | error failure =>
    obtain ⟨others, texts⟩ := before
    rw [accounts.whole, textsOf_append, ← texts, List.append_assoc,
      handleAll_append_of_error answered]

/-- A host that has ended with its worker has done what handling the messages one by one
comes to. -/
theorem Accounts.of_stopped (accounts : Accounts outside world all read handled host)
    {result : Except HostError Unit} (stopped : host.worker = .ended result)
    (written : host.outbound = []) :
    let handled := Protocol.handleAll outside (textsOf all) (.initial world)
    host.output = writtenLines handled.record ∧ result = handled.answer.mapError .ofFailure := by
  rw [← accounts.handleAll_of_stopped stopped]
  refine ⟨?_, (accounts.stopped result stopped).1⟩
  rw [← accounts.sent, written]
  exact (List.append_nil _).symm

/-! ## No order of steps gets stuck or goes on for ever -/

/-- **A host that has not ended can go on.** -/
theorem exists_step (outside : Collaborators World) {host : Host World}
    (open_ : host.result = none) : ∃ next, Step outside host next := by
  cases reader : host.reader with
  | reading =>
    cases next : host.input with
    | nil => exact ⟨_, .endOfInput open_ reader next⟩
    | cons line rest =>
      cases line with
      | blank => exact ⟨_, .skip open_ reader next⟩
      | message text => exact ⟨_, .read open_ reader next⟩
      | unreadable => exact ⟨_, .unreadable open_ reader next⟩
  | holding text =>
    cases worker : host.worker with
    | ended result => exact ⟨_, .undelivered open_ reader worker⟩
    | running protocol =>
      by_cases room : host.inbound.length < inboundLimit
      · exact ⟨_, .deliver open_ reader room worker⟩
      · -- A full queue has something for the worker.
        cases next : host.inbound with
        | nil => simp [next, inboundLimit] at room
        | cons text rest => exact ⟨_, .work worker next⟩
  | closed =>
    have free : ∀ text, host.reader ≠ .holding text := by simp [reader]
    cases worker : host.worker with
    | running protocol =>
      cases next : host.inbound with
      | nil => exact ⟨_, .rest worker next reader⟩
      | cons text rest => exact ⟨_, .work worker next⟩
    | ended result =>
      cases next : host.outbound with
      | nil => exact ⟨_, .finish open_ free worker next⟩
      | cons message rest => exact ⟨_, .write open_ free next⟩

/-- The steps that are still to come, apart from writing, at most.  A line that has not been
read may be held, enter the queue and be handled. -/
def pending (host : Host World) : Nat :=
  3 * host.input.length + host.reader.pending + host.inbound.length + host.worker.pending +
    if host.result.isNone then 1 else 0

/-- **Every step but writing** lowers the bound, and writing shortens what is to be written. -/
theorem Step.lowers (next : Step outside host after) :
    after.pending < host.pending ∨
      after.pending = host.pending ∧ after.outbound.length < host.outbound.length := by
  cases next with
  | write open_ free next =>
    refine .inr ⟨rfl, ?_⟩
    simp only [next, List.length_cons, Nat.lt_add_one]
  | @work text rest protocol alive next =>
    refine .inl ?_
    have before : host.worker.pending = 1 := by rw [alive, Worker.pending]
    have after := Worker.pending_le (workerAfter (Protocol.handleText outside text protocol))
    simp only [pending, before, next, List.length_cons]
    omega
  | skip open_ reading next | read open_ reading next | endOfInput open_ reading next
  | unreadable open_ reading next =>
    refine .inl ?_
    simp only [pending, open_, reading, next, Reader.pending, List.length_cons, List.length_nil,
      Option.isNone_none, Option.isNone_some, if_true, Bool.false_eq_true, if_false]
    omega
  | deliver open_ held room alive =>
    refine .inl ?_
    simp only [pending, held, Reader.pending, List.length_append, List.length_singleton]
    omega
  | undelivered open_ held stopped =>
    refine .inl ?_
    simp only [pending, held, Reader.pending]
    omega
  | rest alive next closed =>
    refine .inl ?_
    simp only [pending, alive, Worker.pending]
    omega
  | finish open_ free stopped written =>
    refine .inl ?_
    simp only [pending, open_, Option.isNone_none, Option.isNone_some, if_true,
      Bool.false_eq_true, if_false]
    omega

/-- **No order of steps goes on for ever.** -/
theorem step_wellFounded (outside : Collaborators World) :
    WellFounded fun next host => Step outside host next := by
  have lexicographic := (Prod.lex Nat.lt_wfRel Nat.lt_wfRel).wf
  refine Subrelation.wf (fun step => ?_)
    (InvImage.wf (fun host => (host.pending, host.outbound.length)) lexicographic)
  exact Prod.lex_def.mpr step.lowers

theorem Reaches.head {first middle last : Host World} (next : Step outside first middle)
    (rest : Reaches outside middle last) : Reaches outside first last := by
  induction rest with
  | refl => exact .step (.refl first) next
  | step _ last ih => exact .step ih last

/-- From everywhere an end can be reached. -/
theorem reaches_end (outside : Collaborators World) (host : Host World) :
    ∃ last result, Reaches outside host last ∧ last.result = some result := by
  induction host using (step_wellFounded outside).induction with
  | _ host ih =>
    cases ends : host.result with
    | some result => exact ⟨host, result, .refl host, ends⟩
    | none =>
      obtain ⟨next, step⟩ := exists_step outside ends
      obtain ⟨last, result, rest, ends⟩ := ih next step
      exact ⟨last, result, rest.head step, ends⟩

end Host

/-! ## The host and the protocol -/

theorem eq_error_of_mapError {Failure Other Answer : Type} {wrap : Failure → Other}
    {result : Except Failure Answer} {other : Other}
    (failed : result.mapError wrap = .error other) :
    ∃ failure, result = .error failure ∧ wrap failure = other := by
  cases result with
  | ok answer => cases failed
  | error failure => exact ⟨failure, rfl, Except.error.inj failed⟩

/-- A line is no text, or blank, or handed on as it is. -/
theorem HostLine.ofBytes_cases (bytes : List UInt8) :
    (Text.decodeUtf8? bytes = none ∧ ofBytes bytes = .unreadable) ∨
      ((Text.decodeUtf8? bytes).isSome ∧
        (ofBytes bytes = .blank ∨ ofBytes bytes = .message bytes)) := by
  cases decoded : Text.decodeUtf8? bytes with
  | none => exact .inl ⟨rfl, by rw [ofBytes, decoded]⟩
  | some characters =>
    simp only [ofBytes, decoded]
    by_cases blank : characters.all Text.isBlank = true
    · exact .inr ⟨rfl, .inl (if_pos blank)⟩
    · exact .inr ⟨rfl, .inr (if_neg blank)⟩

/-- If all lines are texts, the host reads them all. -/
theorem unreadable_not_mem_hostLines {input : List UInt8}
    (texts : ∀ line ∈ Text.lines 10 13 input, (Text.decodeUtf8? line).isSome) :
    .unreadable ∉ hostLines input := by
  intro member
  obtain ⟨line, inside, sees⟩ := List.mem_map.mp member
  have decoded := texts line inside
  rcases HostLine.ofBytes_cases line with ⟨none, _⟩ | ⟨_, sees' | sees'⟩
  · rw [none] at decoded
    cases decoded
  · exact nomatch sees'.symm.trans sees
  · exact nomatch sees'.symm.trans sees

/-- What a host has done when it has ended, if no line was unreadable. -/
theorem Host.Accounts.of_ended {all read : List HostLine} {handled : List (List UInt8)}
    {host : Host World} (accounts : Host.Accounts outside world all read handled host)
    (readable : .unreadable ∉ all) {result : Except HostError Unit}
    (ends : host.result = some result) :
    let handled := Protocol.handleAll outside (textsOf all) (.initial world)
    host.output = writtenLines handled.record ∧ result = handled.answer.mapError .ofFailure := by
  rcases accounts.ended result ends with ⟨stopped, written⟩ | ⟨_, _, rest, unread⟩
  · exact accounts.of_stopped stopped written
  · rw [accounts.whole, unread] at readable
    exact absurd (List.mem_append_right read List.mem_cons_self) readable

namespace Host

/-- A host that serves the stream may write this and end so. -/
def Ends (outside : Collaborators World) (world : World) (input output : List UInt8)
    (result : Except HostError Unit) : Prop :=
  ∃ last, Reaches outside (.initial world input) last ∧ last.output = output ∧
    last.result = some result

/-- A host that serves the stream may end with its input. -/
def Succeeds (outside : Collaborators World) (world : World) (input : List UInt8) : Prop :=
  ∃ output, Ends outside world input output (.ok ())

variable {input : List UInt8}

/-- If no line is unreadable there is one end only. -/
theorem ends_iff (readable : .unreadable ∉ hostLines input) {output : List UInt8}
    {result : Except HostError Unit} :
    Ends outside world input output result ↔
      output = writtenLines
        (Protocol.handleAll outside (textsOf (hostLines input)) (.initial world)).record ∧
      result = (Protocol.handleAll outside (textsOf (hostLines input))
        (.initial world)).answer.mapError .ofFailure := by
  constructor
  · rintro ⟨last, reaches, rfl, ends⟩
    obtain ⟨_, _, accounts⟩ := reaches.accounts
    exact accounts.of_ended readable ends
  · rintro ⟨rfl, rfl⟩
    obtain ⟨last, result, reaches, ends⟩ := reaches_end outside (.initial world input)
    obtain ⟨_, _, accounts⟩ := reaches.accounts
    obtain ⟨output, rfl⟩ := accounts.of_ended readable ends
    exact ⟨last, reaches, output, ends⟩

/-- What a host has written when it ends with its input shows that it has read all lines. -/
theorem Ends.readable {output : List UInt8} (ends : Ends outside world input output (.ok ())) :
    .unreadable ∉ hostLines input := by
  obtain ⟨last, reaches, _, ended⟩ := ends
  obtain ⟨read, handled, accounts⟩ := reaches.accounts
  rcases accounts.ended _ ended with ⟨stopped, _⟩ | ⟨failed, _⟩
  · obtain ⟨consumed, _⟩ := (accounts.stopped _ stopped).2.2 rfl
    rw [accounts.whole, consumed, List.append_nil]
    exact accounts.readable
  · cases failed

/-- **A host ends with its input** exactly if all lines are texts and no message fails. -/
theorem succeeds_iff :
    Succeeds outside world input ↔ .unreadable ∉ hostLines input ∧
      (Protocol.handleAll outside (textsOf (hostLines input)) (.initial world)).answer =
        .ok () := by
  constructor
  · rintro ⟨output, ends⟩
    obtain ⟨_, answered⟩ := (ends_iff ends.readable).mp ends
    refine ⟨ends.readable, ?_⟩
    cases answer : (Protocol.handleAll outside (textsOf (hostLines input))
      (.initial world)).answer with
    | ok _ => rfl
    | error failure =>
      rw [answer] at answered
      cases answered
  · rintro ⟨readable, answered⟩
    refine ⟨_, (ends_iff readable).mpr ⟨rfl, ?_⟩⟩
    rw [answered]
    rfl

end Host

/-- **The host equals the protocol.**  For a stream of texts, whatever the loader, the engine and
the clock do and in whatever order lines are read, handled and answered: everything a host
writes is the beginning of what handling the messages one by one sends, each message in its
encoding and with one newline behind it; when it has ended it has written all of that, and it fails
exactly if one of the messages fails, with the first failure.  From everywhere it can go on to such
an end, and no order of steps goes on for ever. -/
theorem host_one_by_one (outside : Collaborators World) (world : World) {input : List UInt8}
    (texts : ∀ line ∈ Text.lines 10 13 input, (Text.decodeUtf8? line).isSome) :
    let messages := textsOf (hostLines input)
    let handled := Protocol.handleAll outside messages (.initial world)
    let encoded := (messagesOf handled.record).flatMap fun message =>
      Text.utf8 message.encode ++ [10]
    (∀ host, Host.Reaches outside (.initial world input) host →
      host.output <+: encoded ∧
      (∀ result, host.result = some result →
        host.output = encoded ∧
        ∀ error, result = .error error ↔
          ∃ failure, error = .ofFailure failure ∧
            FailsAtSome outside (.initial world) messages failure) ∧
      (host.result = none → ∃ next, Host.Step outside host next)) ∧
    WellFounded fun next host => Host.Step outside host next := by
  intro messages handled encoded
  refine ⟨fun host reaches => ?_, Host.step_wellFounded outside⟩
  obtain ⟨read, sofar, accounts⟩ := reaches.accounts
  refine ⟨accounts.output_before, fun result ends => ?_, Host.exists_step outside⟩
  obtain ⟨output, rfl⟩ := accounts.of_ended (unreadable_not_mem_hostLines texts) ends
  refine ⟨output, fun error => ?_⟩
  simp only [← handleAll_error_iff]
  constructor
  · intro failed
    obtain ⟨failure, answered, is⟩ := eq_error_of_mapError failed
    exact ⟨failure, is.symm, answered⟩
  · rintro ⟨failure, rfl, answered⟩
    rw [answered]
    rfl

/-- A session is opened and started, but the best path has a number without a word.  The host
says that it is ready, ends with the audio, and leaves the last line. -/
theorem host_one_by_one_small :
    let outside := (Rehearsal.smallScript none [7]).collaborators
    let input := [
      "\x7b\"type\":\"init\",\"args\":[", "\"--word-symbol-table=w\",", "\"--chunk-length=1\",",
      "\"m\",\"g\"],\"sample_frequency\":1\x7d\n", "\n", "\x7b\"type\":\"start\"\x7d\n",
      "\x7b\"type\":\"audio\",\"audio\":[0,0]\x7d\n",
      "\x7b\"type\":\"cancel\"\x7d\n"].flatMap Text.utf8
    ∃ last error, Host.Reaches outside (.initial .initial input) last ∧
      last.output = Text.utf8 "\x7b\"type\":\"ready\"\x7d\n" ∧
      last.result = some (.error error) := by
  intro outside input
  have texts : ∀ line ∈ Text.lines 10 13 input, (Text.decodeUtf8? line).isSome := by
    decide +kernel
  obtain ⟨runs, -⟩ := host_one_by_one outside .initial texts
  obtain ⟨last, result, reaches, ends⟩ := Host.reaches_end outside (.initial .initial input)
  obtain ⟨-, done, -⟩ := runs last reaches
  obtain ⟨output, fails⟩ := done result ends
  have sent : (messagesOf (Protocol.handleAll outside (textsOf (hostLines input))
      (.initial .initial)).record).flatMap (fun message => Text.utf8 message.encode ++ [10]) =
        Text.utf8 "\x7b\"type\":\"ready\"\x7d\n" := by
    decide +kernel
  have failed : (Protocol.handleAll outside (textsOf (hostLines input))
      (.initial .initial)).answer.toBool = false := by decide +kernel
  cases answered : (Protocol.handleAll outside (textsOf (hostLines input))
      (.initial .initial)).answer with
  | ok _ => exact nomatch (congrArg Except.toBool answered).symm.trans failed
  | error failure =>
    obtain rfl := (fails _).mpr ⟨failure, rfl, handleAll_error_iff.mp answered⟩
    exact ⟨last, _, reaches, output.trans sent, ends⟩

end LiveSpeech
