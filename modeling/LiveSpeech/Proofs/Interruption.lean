import LiveSpeech.Proofs.ReadingAhead
import LiveSpeech.Rehearsal.Small

/-!
# Where reading fails

A line that cannot be read, because its bytes are no text or because the stream breaks off, ends
the host at once.  The lines before it may not have been handled by then, and what they have sent
may not have been written: it is lost, although a host that ends otherwise, with its input or with
a message that fails, writes everything first.

What is lost is counted (`unreadable_line_loses_output`): the messages that wait to be written
and those that the lines in the queue are going to send.  The order in which lines are read,
handled and answered decides how much that is.  If the queue has room for the lines before, there
is an order in which all of it is lost; so nothing is lost for certain only if there is nothing to
be sent.
-/

namespace LiveSpeech

set_option autoImplicit false

variable {World : Type} {outside : Collaborators World} {world : World}

/-! ## The lines before -/

/-- What has been read lies before the line that cannot be read. -/
theorem read_before_unreadable {read input before rest : List HostLine}
    (whole : before ++ .unreadable :: rest = read ++ input) (readable : .unreadable ∉ read) :
    read <+: before := by
  rcases List.append_eq_append_iff.mp whole with ⟨more, rfl, broken⟩ | ⟨more, rfl, _⟩
  · cases more with
    | nil => exact ⟨[], by simp⟩
    | cons line more =>
      obtain rfl := (List.cons.inj broken).1
      exact absurd (List.mem_append_right before List.mem_cons_self) readable
  · exact List.prefix_append _ _

/-- Reading that stands before a line that cannot be read has read all lines before it. -/
theorem read_eq_before {read more before rest : List HostLine}
    (whole : before ++ .unreadable :: rest = read ++ .unreadable :: more)
    (readBefore : .unreadable ∉ read) (readable : .unreadable ∉ before) : read = before :=
  (read_before_unreadable whole readBefore).eq_of_length_le
    (read_before_unreadable whole.symm readable).length_le

/-- Nothing is written exactly if nothing is sent. -/
theorem writtenLines_eq_nil {record : List Event} :
    writtenLines record = [] ↔ messagesOf record = [] := by
  have filled (message : ServerMessage) : message.line ≠ [] :=
    List.append_ne_nil_of_right_ne_nil _ (List.cons_ne_nil 10 [])
  rw [writtenLines, List.flatMap_eq_nil_iff, List.eq_nil_iff_forall_not_mem]
  exact forall₂_congr fun message _ => iff_false_intro (filled message)

namespace Host

/-! ## What is lost -/

/-- What a host has not written: the messages that wait to be written, and those that are sent
when the lines in the queue are handled. -/
def unwritten (outside : Collaborators World) (host : Host World) : List ServerMessage :=
  host.outbound ++
    match host.worker with
    | .running protocol => messagesOf (Protocol.handleAll outside host.inbound protocol).record
    | .ended _ => []

section Accounts

variable {read before rest : List HostLine} {handled : List (List UInt8)} {host : Host World}
  (accounts : Accounts outside world (before ++ .unreadable :: rest) read handled host)
include accounts

/-- A worker that has ended before a line that cannot be read has met a message that fails. -/
theorem Accounts.failed_of_stopped {result : Except HostError Unit}
    (stopped : host.worker = .ended result) :
    ∃ failure, result = .error (.ofFailure failure) ∧
      (Protocol.handleAll outside handled (.initial world)).answer = .error failure ∧
      Protocol.handleAll outside (textsOf before) (.initial world) =
        Protocol.handleAll outside handled (.initial world) := by
  obtain ⟨ends, handledBefore, whole⟩ := accounts.stopped result stopped
  have readBefore := read_before_unreadable accounts.whole accounts.readable
  cases answered : (Protocol.handleAll outside handled (.initial world)).answer with
  | error failure =>
    rw [answered] at ends
    obtain ⟨unread, rfl⟩ := readBefore
    obtain ⟨others, texts⟩ := handledBefore
    refine ⟨failure, ends, rfl, ?_⟩
    rw [textsOf_append, ← texts, List.append_assoc, handleAll_append_of_error answered]
  | ok _ =>
    -- It would have read everything, and the line that cannot be read with it.
    rw [answered] at ends
    have consumed := (whole ends).1
    have inside : .unreadable ∈ read := by
      rw [← List.append_nil read, ← consumed, ← accounts.whole]
      exact List.mem_append_right before List.mem_cons_self
    exact absurd inside accounts.readable

/-- **What is written and what is not** are together what the lines before call for, when reading
stands before the line that cannot be read. -/
theorem Accounts.output_unwritten (readable : .unreadable ∉ before)
    (reading : host.reader = .reading) {more : List HostLine}
    (next : host.input = .unreadable :: more) :
    host.output ++ (host.unwritten outside).flatMap ServerMessage.line =
      writtenLines (Protocol.handleAll outside (textsOf before) (.initial world)).record := by
  have all := accounts.whole
  rw [next] at all
  obtain rfl := read_eq_before all accounts.readable readable
  rw [unwritten, List.flatMap_append, ← List.append_assoc, accounts.sent]
  cases worker : host.worker with
  | ended result =>
    obtain ⟨_, _, _, same⟩ := accounts.failed_of_stopped worker
    rw [same]
    exact List.append_nil _
  | running protocol =>
    obtain ⟨answered, rfl, texts, _⟩ := accounts.running protocol worker
    rw [texts, reading, Reader.held, List.append_nil, handleAll_append,
      Action.bind_ok answered, Outcome.after_record, writtenLines_append]
    rfl

/-- **What a host has written when it has ended**, if there is a line that cannot be read. -/
theorem Accounts.of_interrupted (readable : .unreadable ∉ before)
    {result : Except HostError Unit} (ends : host.result = some result) :
    let whole := Protocol.handleAll outside (textsOf before) (.initial world)
    (host.output = writtenLines whole.record ∧
      ∃ failure, whole.answer = .error failure ∧ result = .error (.ofFailure failure)) ∨
    (result = .error .unreadableInput ∧
      host.output ++ (host.unwritten outside).flatMap ServerMessage.line =
        writtenLines whole.record) := by
  rcases accounts.ended result ends with ⟨stopped, written⟩ | ⟨broken, reading, more, next⟩
  · obtain ⟨failure, is, failed, same⟩ := accounts.failed_of_stopped stopped
    refine .inl ⟨?_, failure, by rw [same, failed], is⟩
    rw [same, ← accounts.sent, written]
    exact (List.append_nil _).symm
  · exact .inr ⟨broken, accounts.output_unwritten readable reading next⟩

end Accounts

/-! ## How everything is lost -/

/-- The messages that have to be handled before the others have room in the queue do not fail. -/
def MakesRoom (outside : Collaborators World) (protocol : Protocol World)
    (texts : List (List UInt8)) : Prop :=
  (Protocol.handleAll outside (texts.take (texts.length - inboundLimit)) protocol).answer = .ok ()

/-- Messages that all have room. -/
theorem makesRoom_of_length_le {protocol : Protocol World} {texts : List (List UInt8)}
    (bounded : texts.length ≤ inboundLimit) : MakesRoom outside protocol texts := by
  rw [MakesRoom, Nat.sub_eq_zero_of_le bounded]
  rfl

/-- Messages that have no room make it one by one. -/
theorem MakesRoom.tail {protocol : Protocol World} {text : List UInt8}
    {others : List (List UInt8)} (room : MakesRoom outside protocol (text :: others))
    (full : inboundLimit ≤ others.length) :
    (Protocol.handleText outside text protocol).answer = .ok () ∧
      MakesRoom outside (Protocol.handleText outside text protocol).state others := by
  have ahead : (text :: others).length - inboundLimit =
      (others.length - inboundLimit) + 1 := by
    simp only [List.length_cons]
    omega
  rw [MakesRoom, ahead, List.take_succ_cons, Protocol.handleAll] at room
  cases answered : (Protocol.handleText outside text protocol).answer with
  | ok _ =>
    rw [Action.bind_ok answered] at room
    exact ⟨rfl, room⟩
  | error failure =>
    rw [Action.bind_error answered] at room
    cases room

/-- **All lines can be read before anything is written**, if they have room in the queue or make
it. -/
theorem reaches_read {before : List HostLine} (readable : .unreadable ∉ before)
    (rest : List HostLine) {waiting : List (List UInt8)} (bounded : waiting.length ≤ inboundLimit)
    {protocol : Protocol World} (room : MakesRoom outside protocol (waiting ++ textsOf before))
    (outbound : List ServerMessage) (output : List UInt8) :
    ∃ last : Host World,
      Reaches outside
        ⟨before ++ rest, .reading, waiting, .running protocol, outbound, output, none⟩ last ∧
      last.input = rest ∧ last.reader = .reading ∧ last.output = output ∧ last.result = none := by
  induction before generalizing waiting protocol outbound with
  | nil => exact ⟨_, .refl _, rfl, rfl, rfl, rfl⟩
  | cons line before ih =>
    have others : .unreadable ∉ before := fun member =>
      readable (List.mem_cons_of_mem line member)
    cases line with
    | unreadable => exact absurd List.mem_cons_self readable
    | blank =>
      obtain ⟨last, reaches, there⟩ := ih others bounded room outbound
      exact ⟨last, reaches.head (.skip rfl rfl rfl), there⟩
    | message text =>
      rw [show textsOf (.message text :: before) = text :: textsOf before from rfl,
        List.append_cons] at room
      by_cases fits : waiting.length < inboundLimit
      · obtain ⟨last, reaches, there⟩ := ih others (length_concat_le fits) room outbound
        exact ⟨last, (reaches.head (.deliver rfl rfl fits rfl)).head (.read rfl rfl rfl), there⟩
      · -- The line is held until the worker has handled the first that waits.
        cases waiting with
        | nil => exact absurd (by decide) fits
        | cons first waiting =>
          have fits' : waiting.length < inboundLimit := bounded
          have full : inboundLimit ≤ (waiting ++ [text] ++ textsOf before).length := by
            simp only [List.length_append, List.length_cons] at fits ⊢
            omega
          obtain ⟨answered, room⟩ := MakesRoom.tail room full
          obtain ⟨last, reaches, there⟩ := ih others (length_concat_le fits') room
            (outbound ++ messagesOf (Protocol.handleText outside first protocol).record)
          have worked : Reaches outside
              ⟨before ++ rest, .holding text, first :: waiting, .running protocol, outbound,
                output, none⟩ last :=
            (reaches.head (.deliver rfl rfl fits' rfl)).head (.work_ok rfl rfl answered)
          exact ⟨last, worked.head (.read rfl rfl rfl), there⟩

/-- So a host may end at the line that cannot be read with nothing written. -/
theorem exists_all_lost {before : List HostLine} (readable : .unreadable ∉ before)
    (rest : List HostLine) (room : MakesRoom outside (.initial world) (textsOf before)) :
    ∃ last, Reaches outside (ofLines world (before ++ .unreadable :: rest)) last ∧
      last.output = [] ∧ last.result = some (.error .unreadableInput) := by
  obtain ⟨last, reaches, next, reading, output, open_⟩ :=
    reaches_read readable (.unreadable :: rest) (Nat.zero_le _)
      (show MakesRoom outside (.initial world) ([] ++ textsOf before) from room) [] []
  exact ⟨_, reaches.step (.unreadable open_ reading next), output, rfl⟩

end Host

/-! ## The host -/

/-- **A line that cannot be read loses output.**  In whatever order the lines before it are read,
handled and answered, a host writes only what handling them one by one sends.  When it has ended,
either a message has failed, and all of that is written; or the line has ended it, and what waits
to be written or is still to be sent by the lines in the queue is missing.  If the lines have room
in the queue, or those before them make it without a failure, there is an order in which nothing
is written at all: everything is written in every order exactly if nothing is sent. -/
theorem unreadable_line_loses_output (outside : Collaborators World) (world : World)
    {before : List HostLine} (rest : List HostLine) (readable : .unreadable ∉ before) :
    let start := Host.ofLines world (before ++ .unreadable :: rest)
    let handled := Protocol.handleAll outside (textsOf before) (.initial world)
    (∀ host, Host.Reaches outside start host →
      host.output <+: writtenLines handled.record ∧
      (host.result = none → ∃ next, Host.Step outside host next) ∧
      ∀ result, host.result = some result →
        (host.output = writtenLines handled.record ∧
          ∃ failure, handled.answer = .error failure ∧ result = .error (.ofFailure failure)) ∨
        (result = .error .unreadableInput ∧
          host.output ++ (host.unwritten outside).flatMap ServerMessage.line =
            writtenLines handled.record)) ∧
    (Host.MakesRoom outside (.initial world) (textsOf before) →
      ((∀ host result, Host.Reaches outside start host → host.result = some result →
        host.output = writtenLines handled.record) ↔ messagesOf handled.record = [])) := by
  intro start handled
  have beginning : ∀ host, Host.Reaches outside start host →
      host.output <+: writtenLines handled.record := by
    intro host reaches
    obtain ⟨read, sofar, accounts⟩ := reaches.accounts_of_lines
    obtain ⟨unread, rfl⟩ := read_before_unreadable accounts.whole accounts.readable
    refine accounts.output_before_of (accounts.handled_before.trans ?_)
    rw [textsOf_append]
    exact List.prefix_append _ _
  refine ⟨fun host reaches => ⟨beginning host reaches, Host.exists_step outside, ?_⟩,
    fun room => ⟨fun complete => ?_, fun silent => ?_⟩⟩
  · intro result ends
    obtain ⟨_, _, accounts⟩ := reaches.accounts_of_lines
    exact accounts.of_interrupted readable ends
  · obtain ⟨last, reaches, nothing, ends⟩ := Host.exists_all_lost readable rest room
    have written := complete last _ reaches ends
    rw [nothing] at written
    exact writtenLines_eq_nil.mp written.symm
  · intro host result reaches _
    have written := beginning host reaches
    rw [writtenLines_eq_nil.mpr silent] at written ⊢
    exact List.prefix_nil.mp written

/-- A session is opened, but the host may end before it says that it is ready. -/
theorem unreadable_line_loses_output_small :
    let outside := (Rehearsal.smallScript none []).collaborators
    let opening := ["\x7b\"type\":\"init\",\"args\":[", "\"--word-symbol-table=w\",",
      "\"--chunk-length=1\",", "\"m\",\"g\"],\"sample_frequency\":1\x7d"].flatMap Text.utf8
    let before := [.blank, .message opening]
    .unreadable ∉ before ∧
      ∃ host result, Host.Reaches outside (.ofLines .initial (before ++ [.unreadable])) host ∧
        host.result = some result ∧ host.output ≠ ServerMessage.ready.line := by
  intro outside opening before
  have readable : .unreadable ∉ before := by decide +kernel
  obtain ⟨-, complete⟩ := unreadable_line_loses_output outside .initial [] readable
  have sent : writtenLines (Protocol.handleAll outside (textsOf before)
      (.initial .initial)).record = ServerMessage.ready.line := by decide +kernel
  refine ⟨readable, ?_⟩
  by_contra none
  have nothing := (complete (Host.makesRoom_of_length_le (by decide))).mp
    fun host result reaches ends => by
      by_contra other
      exact none ⟨host, result, reaches, ends, sent ▸ other⟩
  rw [writtenLines_eq_nil.mpr nothing] at sent
  exact absurd sent (by decide +kernel)

/-- A request for a session is answered with how to make one, but if the next line is no text, the
host may end with nothing written. -/
theorem usage_lost_at_unreadable_line :
    let outside := (Rehearsal.smallScript none []).collaborators
    let request := Text.utf8
      "\x7b\"type\":\"init\",\"args\":[\"--chunk-length=x\"],\"sample_frequency\":16000\x7d\n"
    writtenLines (Protocol.handleAll outside (textsOf (hostLines request))
      (.initial .initial)).record ≠ [] ∧
      Host.Ends outside .initial (request ++ [0xff, 10]) [] (.error .unreadableInput) := by
  intro outside request
  have seen : hostLines (request ++ [0xff, 10]) =
      [.message (request.dropLast), .unreadable] := by decide +kernel
  have ends := serve_ends outside .initial (request ++ [0xff, 10])
  rw [serve, seen] at ends
  exact ⟨by decide +kernel, ends⟩

end LiveSpeech
