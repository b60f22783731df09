import LiveSpeech.Proofs.Interleaving
import LiveSpeech.Proofs.Layout

/-!
# Lines that are dropped

A line that cannot be read as a message is noted and dropped when the protocol handles it: it
changes neither what is sent nor what the protocol comes to (`handleAll_without_rejected`).  A
blank line does not get as far as that.  So such a line might as well not be in the stream that
a host serves.

There is one exception (`deletion_of_rejected_line`).  A line that is no text, because its bytes
are not the bytes of any characters, does not reach the protocol either, but the host does not
pass it over: it ends, whatever the other lines are (`host_ends_at_unreadable_line`).
-/

namespace LiveSpeech

set_option autoImplicit false

/-! ## A line and the stream around it -/

/-- A line of a stream: the bytes between two line feeds, `before` and `after` being the lines
around it.  Behind the last line there may be no line feed. -/
structure IsLine (before line feed after : List UInt8) : Prop where
  starts : before = [] ∨ before.getLast? = some 10
  whole : 10 ∉ line
  ends : feed = [10] ∨ (feed = [] ∧ after = [] ∧ line ≠ [])

/-- The bytes of a line that count: a carriage return before the line feed belongs to it. -/
def lineAsRead (line feed : List UInt8) : List UInt8 :=
  if feed = [] then line else Text.withoutReturn 13 line

namespace IsLine

variable {before line feed after : List UInt8} (isLine : IsLine before line feed after)
include isLine

theorem hostLines_stream :
    hostLines (before ++ line ++ feed ++ after) =
      hostLines before ++ HostLine.ofBytes (lineAsRead line feed) :: hostLines after := by
  have apart := Text.lines_append 10 13 isLine.starts (line ++ feed ++ after)
  have own : Text.lines 10 13 (line ++ feed ++ after) =
      lineAsRead line feed :: Text.lines 10 13 after := by
    rcases isLine.ends with rfl | ⟨rfl, rfl, filled⟩
    · rw [List.append_assoc]
      exact Text.lines_line_append 10 13 isLine.whole after
    · rw [List.append_nil, List.append_nil]
      exact Text.lines_line 10 13 isLine.whole filled
  rw [own] at apart
  simp only [hostLines, ← List.map_cons, ← List.map_append, ← apart, List.append_assoc]

theorem hostLines_others :
    hostLines (before ++ after) = hostLines before ++ hostLines after := by
  rw [hostLines, Text.lines_append 10 13 isLine.starts, List.map_append]
  rfl

end IsLine

/-- What is no message as it stands is none without its carriage return. -/
theorem decode_lineAsRead {line : List UInt8} (feed : List UInt8)
    (rejected : ∃ fault, ClientMessage.decode line = .error fault) :
    ∃ fault, ClientMessage.decode (lineAsRead line feed) = .error fault := by
  obtain ⟨fault, rejected⟩ := rejected
  by_cases returned : feed ≠ [] ∧ line.getLast? = some 13
  · obtain ⟨feeds, last⟩ := returned
    obtain ⟨text, rfl⟩ := List.getLast?_eq_some_iff.mp last
    rw [lineAsRead, if_neg feeds, Text.withoutReturn, if_pos last, List.dropLast_concat]
    cases read : ClientMessage.decode text with
    | error fault => exact ⟨fault, rfl⟩
    | ok message =>
      have same : ClientMessage.decode (text ++ [13]) = .ok message :=
        Json.decode_append_layout rfl read
      exact nomatch same.symm.trans rejected
  · have same : lineAsRead line feed = line := by
      by_cases feeds : feed = []
      · rw [lineAsRead, if_pos feeds]
      · rw [lineAsRead, if_neg feeds, Text.withoutReturn, if_neg fun last => returned ⟨feeds, last⟩]
    exact ⟨fault, by rw [same, rejected]⟩

/-! ## What the protocol makes of it -/

section Handling

variable {World : Type} (outside : Collaborators World) {text : List UInt8}
  (rejected : ∃ fault, ClientMessage.decode text = .error fault)
include rejected

/-- What is no message is noted, and that is all. -/
theorem handleText_of_rejected (protocol : Protocol World) :
    ∃ notice, Protocol.handleText outside text protocol = ⟨.ok (), protocol, [.note notice]⟩ := by
  obtain ⟨fault, rejected⟩ := rejected
  rw [Protocol.handleText, rejected]
  exact ⟨_, rfl⟩

/-- **What is no message** might as well not be there. -/
theorem handleAll_without_rejected (before after : List (List UInt8)) (protocol : Protocol World) :
    let run := Protocol.handleAll outside (before ++ text :: after) protocol
    let without := Protocol.handleAll outside (before ++ after) protocol
    run.answer = without.answer ∧ run.state = without.state ∧
      messagesOf run.record = messagesOf without.record := by
  simp only [handleAll_append]
  cases answered : (Protocol.handleAll outside before protocol).answer with
  | error failure =>
    rw [Action.bind_error answered, Action.bind_error answered]
    exact ⟨rfl, rfl, rfl⟩
  | ok _ =>
    rw [Action.bind_ok answered, Action.bind_ok answered]
    obtain ⟨notice, noted⟩ := handleText_of_rejected outside rejected
      (Protocol.handleAll outside before protocol).state
    have fine : (Protocol.handleText outside text
        (Protocol.handleAll outside before protocol).state).answer = .ok () := by
      rw [noted]
    rw [Protocol.handleAll, Action.bind_ok fine, noted]
    refine ⟨rfl, rfl, ?_⟩
    simp only [Outcome.after_record, messagesOf_append]
    rfl

end Handling

/-! ## What the host makes of it -/

/-- What comes of the messages of a stream does not change with a line that is none. -/
theorem handled_without_line {World : Type} (outside : Collaborators World) (world : World)
    {before line feed after : List UInt8} (isLine : IsLine before line feed after)
    (rejected : ∃ fault, ClientMessage.decode line = .error fault) :
    let run := Protocol.handleAll outside (textsOf (hostLines (before ++ line ++ feed ++ after)))
      (.initial world)
    let without := Protocol.handleAll outside (textsOf (hostLines (before ++ after)))
      (.initial world)
    run.answer = without.answer ∧ writtenLines run.record = writtenLines without.record := by
  rw [isLine.hostLines_stream, isLine.hostLines_others, textsOf_append, textsOf_append]
  rcases HostLine.ofBytes_cases (lineAsRead line feed) with ⟨_, seen⟩ | ⟨_, seen | seen⟩
  · rw [seen]
    exact ⟨rfl, rfl⟩
  · rw [seen]
    exact ⟨rfl, rfl⟩
  · rw [seen]
    obtain ⟨answer, _, messages⟩ := handleAll_without_rejected outside
      (decode_lineAsRead feed rejected) (textsOf (hostLines before)) (textsOf (hostLines after))
      (.initial world)
    exact ⟨answer, congrArg (List.flatMap ServerMessage.line) messages⟩

/-- **Deleting a line that is no message.**  If the line is a text, blank or not, a host that
succeeds with it succeeds without it and the other way round, and if the other lines are texts
too, it writes the same and ends alike.  If the line is no text, a host fails with it in any
case.  With or without it nothing is written that the other lines do not call for. -/
theorem deletion_of_rejected_line {World : Type} (outside : Collaborators World) (world : World)
    {before line feed after : List UInt8} (isLine : IsLine before line feed after)
    (rejected : ∃ fault, ClientMessage.decode line = .error fault) :
    let stream := before ++ line ++ feed ++ after
    let others := before ++ after
    let characters? := Text.decodeUtf8? (lineAsRead line feed)
    (characters?.isSome →
      (Host.Succeeds outside world stream ↔ Host.Succeeds outside world others) ∧
      ((∀ other ∈ Text.lines 10 13 others, (Text.decodeUtf8? other).isSome) → ∀ output result,
        Host.Ends outside world stream output result ↔
          Host.Ends outside world others output result)) ∧
    (characters? = none → ∀ output result, Host.Ends outside world stream output result →
      ∃ error, result = .error error) ∧
    ∀ input, input = stream ∨ input = others → ∀ output result,
      Host.Ends outside world input output result →
        output <+: writtenLines (Protocol.handleAll outside (textsOf (hostLines others))
          (.initial world)).record := by
  intro stream others characters?
  obtain ⟨answer, written⟩ := handled_without_line outside world isLine rejected
  have readable : characters?.isSome →
      (.unreadable ∉ hostLines stream ↔ .unreadable ∉ hostLines others) := by
    intro isText
    have apart : HostLine.unreadable ≠ HostLine.ofBytes (lineAsRead line feed) := by
      rcases HostLine.ofBytes_cases (lineAsRead line feed) with ⟨none, _⟩ | ⟨_, seen | seen⟩
      · exact nomatch (congrArg Option.isSome none).symm.trans isText
      · exact seen ▸ nofun
      · exact seen ▸ nofun
    rw [isLine.hostLines_stream, isLine.hostLines_others]
    simp only [List.mem_append, List.mem_cons, apart, false_or]
  refine ⟨fun isText => ⟨?_, fun texts output result => ?_⟩, fun noText output result ends => ?_,
    fun input which output result ends => ?_⟩
  · rw [Host.succeeds_iff, Host.succeeds_iff, readable isText, answer]
  · have others := unreadable_not_mem_hostLines texts
    rw [Host.ends_iff others, Host.ends_iff ((readable isText).mpr others), answer, written]
  · cases result with
    | error error => exact ⟨error, rfl⟩
    | ok _ =>
      refine absurd ?_ ends.readable
      have seen : HostLine.ofBytes (lineAsRead line feed) = .unreadable := by
        rw [HostLine.ofBytes, show Text.decodeUtf8? (lineAsRead line feed) = none from noText]
      rw [isLine.hostLines_stream, seen]
      exact List.mem_append_right _ List.mem_cons_self
  · obtain ⟨last, reaches, rfl, _⟩ := ends
    obtain ⟨_, _, accounts⟩ := reaches.accounts
    rcases which with rfl | rfl
    · exact written ▸ accounts.output_before
    · exact accounts.output_before

theorem exists_error_of_toBool {Failure Answer : Type} {result : Except Failure Answer}
    (failed : result.toBool = false) : ∃ failure, result = .error failure := by
  cases result with
  | ok answer => cases failed
  | error failure => exact ⟨failure, rfl⟩

/-- A word between two messages does no harm. -/
theorem deletion_of_rejected_line_small :
    let outside := (Rehearsal.smallScript none []).collaborators
    let start := Text.utf8 "\x7b\"type\":\"start\"\x7d\n"
    let cancel := Text.utf8 "\x7b\"type\":\"cancel\"\x7d"
    Host.Succeeds outside .initial (start ++ Text.utf8 "hello\r" ++ [10] ++ cancel) := by
  intro outside start cancel
  have isLine : IsLine start (Text.utf8 "hello\r") [10] cancel :=
    ⟨.inr (by decide +kernel), by decide +kernel, .inl rfl⟩
  have rejected : (ClientMessage.decode (Text.utf8 "hello\r")).toBool = false := by
    decide +kernel
  obtain ⟨text, -⟩ := deletion_of_rejected_line outside .initial isLine
    (exists_error_of_toBool rejected)
  refine (text (by decide +kernel)).1.mpr (Host.succeeds_iff.mpr ⟨by decide +kernel, ?_⟩)
  exact eq_ok_of_toOption (by decide +kernel)

/-- A byte that begins no character is no message either, but with it the host fails, and without
it there is nothing that could fail. -/
theorem host_ends_at_unreadable_line :
    let outside := (Rehearsal.smallScript none []).collaborators
    IsLine [] [0xff] [10] [] ∧ (∃ fault, ClientMessage.decode [0xff] = .error fault) ∧
      ¬Host.Succeeds outside .initial ([] ++ [0xff] ++ [10] ++ []) ∧
      Host.Succeeds outside .initial ([] ++ []) := by
  refine ⟨⟨.inl rfl, by decide, .inl rfl⟩, exists_error_of_toBool (by decide +kernel), ?_, ?_⟩
  · rw [Host.succeeds_iff]
    exact fun ⟨readable, _⟩ => absurd readable (by decide +kernel)
  · exact Host.succeeds_iff.mpr ⟨by decide +kernel, rfl⟩

end LiveSpeech
