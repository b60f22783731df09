import LiveSpeech.Protocol
import LiveSpeech.Text.Blank

/-!
# Serving a session line by line

A host reads messages from a stream of bytes, one on each line, and writes the answers to
another, one on each line.  Blank lines are passed over.  It ends with the stream, with the
first message whose handling fails, or with the first line that cannot be read.

Reading, handling and writing go on side by side, joined by two queues; the queue of lines is
bounded.  `Host.Step` says what each of the three may do next, in any order that the queues
allow.  `serve` is the run of a host whose input is all there from the beginning: lines are read
as far ahead of their handling as the queue allows.
-/

namespace LiveSpeech

set_option autoImplicit false

open LiveSpeech.Text

/-! ## Lines -/

/-- A line as the host sees it. -/
inductive HostLine where
  | blank
  | message (text : List UInt8)
  | unreadable
  deriving DecidableEq, Repr

/-- What the host sees in the bytes of a line. -/
def HostLine.ofBytes (bytes : List UInt8) : HostLine :=
  match decodeUtf8? bytes with
  | none => .unreadable
  | some characters => if characters.all isBlank then .blank else .message bytes

def hostLines (input : List UInt8) : List HostLine := (lines 10 13 input).map HostLine.ofBytes

/-! ## Results -/

/-- Why a host ends before its input. -/
inductive HostError where
  | session (cause : SessionError)
  | workerStopped
  | unreadableInput

def HostError.message : HostError → String
  | .session cause => cause.message
  | .workerStopped => "Session worker panicked"
  | .unreadableInput => "Failed to read input"

/-- The failure of a message as the end of the host. -/
def HostError.ofFailure : Failure → HostError
  | .error cause => .session cause
  | .broken _ => .workerStopped

variable {World : Type}

/-- The lines of the messages in a record, as they are written. -/
def writtenLines (record : List Event) : List UInt8 :=
  (messagesOf record).flatMap ServerMessage.line

/-- How many lines may wait for the worker. -/
def inboundLimit : Nat := 64

/-! ## Reading ahead -/

/-- What a host leaves behind. -/
structure Service (World : Type) where
  output : List UInt8
  result : Except HostError Unit
  record : List Event
  world : World

/-- The end of a host: the session is let go. -/
def closeHost (outside : Collaborators World) (protocol : Protocol World)
    (result : Except HostError Unit) : Service World :=
  let closed := Protocol.drop outside protocol
  ⟨[], result, closed.record, closed.state.world⟩

/-- What happened before the rest. -/
def Service.after (record : List Event) (service : Service World) : Service World :=
  { service with
    output := writtenLines record ++ service.output
    record := record ++ service.record }

/-- A line is handled and answered; then comes the rest, unless its handling fails. -/
def serveText (outside : Collaborators World) (text : List UInt8) (protocol : Protocol World)
    (rest : Protocol World → Service World) : Service World :=
  let handled := Protocol.handleText outside text protocol
  match handled.answer with
  | .ok () => (rest handled.state).after handled.record
  | .error failure =>
    (closeHost outside handled.state (.error (.ofFailure failure))).after handled.record

/-- Serves the lines that wait, when nothing more is to be read. -/
def serveWaiting (outside : Collaborators World) :
    List (List UInt8) → Protocol World → Service World
  | [], protocol => closeHost outside protocol (.ok ())
  | text :: others, protocol => serveText outside text protocol (serveWaiting outside others)

/-- Serves lines, and before them those that wait.  A line is handled when the queue has no room
for another one. -/
def serveLines (outside : Collaborators World) :
    List HostLine → List (List UInt8) → Protocol World → Service World
  | [], waiting, protocol => serveWaiting outside waiting protocol
  | .blank :: rest, waiting, protocol => serveLines outside rest waiting protocol
  | .unreadable :: _, waiting, protocol =>
    -- The worker still handles the lines that wait, but nobody writes what it sends.
    { serveWaiting outside waiting protocol with
      output := []
      result := .error .unreadableInput }
  | .message text :: rest, [], protocol => serveLines outside rest [text] protocol
  | .message text :: rest, first :: others, protocol =>
    if (first :: others).length < inboundLimit then
      serveLines outside rest (first :: others ++ [text]) protocol
    else
      serveText outside first protocol (serveLines outside rest (others ++ [text]))

/-- Serves a stream of bytes. -/
def serve (outside : Collaborators World) (world : World) (input : List UInt8) : Service World :=
  serveLines outside (hostLines input) [] (.initial world)

/-! ## Side by side -/

/-- Where reading stands. -/
inductive Reader where
  | reading
  | holding (text : List UInt8)
  | closed
  deriving DecidableEq, Repr

/-- Where handling stands. -/
inductive Worker (World : Type) where
  | running (protocol : Protocol World)
  | ended (result : Except HostError Unit)

/-- A host at work. -/
structure Host (World : Type) where
  input : List HostLine
  reader : Reader
  inbound : List (List UInt8)
  worker : Worker World
  outbound : List ServerMessage
  output : List UInt8
  result : Option (Except HostError Unit)

namespace Host

def initial (world : World) (input : List UInt8) : Host World :=
  ⟨hostLines input, .reading, [], .running (.initial world), [], [], none⟩

/-- A host before a stream that is given by what it sees in its lines. -/
def ofLines (world : World) (lines : List HostLine) : Host World :=
  ⟨lines, .reading, [], .running (.initial world), [], [], none⟩

/-- The worker after it has handled a line. -/
def workerAfter (handled : Outcome (Protocol World) Failure Unit) : Worker World :=
  match handled.answer with
  | .ok () => .running handled.state
  | .error failure => .ended (.error (.ofFailure failure))

/-- What may happen next in a host that has not ended. -/
inductive Step (outside : Collaborators World) : Host World → Host World → Prop where
  | skip {host : Host World} {rest : List HostLine}
      (open_ : host.result = none) (reading : host.reader = .reading)
      (next : host.input = .blank :: rest) :
      Step outside host { host with input := rest }
  | read {host : Host World} {text : List UInt8} {rest : List HostLine}
      (open_ : host.result = none) (reading : host.reader = .reading)
      (next : host.input = .message text :: rest) :
      Step outside host { host with input := rest, reader := .holding text }
  | deliver {host : Host World} {text : List UInt8} {protocol : Protocol World}
      (open_ : host.result = none) (held : host.reader = .holding text)
      (room : host.inbound.length < inboundLimit) (alive : host.worker = .running protocol) :
      Step outside host { host with reader := .reading, inbound := host.inbound ++ [text] }
  | undelivered {host : Host World} {text : List UInt8} {result : Except HostError Unit}
      (open_ : host.result = none) (held : host.reader = .holding text)
      (stopped : host.worker = .ended result) :
      Step outside host { host with reader := .closed }
  | endOfInput {host : Host World}
      (open_ : host.result = none) (reading : host.reader = .reading)
      (next : host.input = []) :
      Step outside host { host with reader := .closed }
  | unreadable {host : Host World} {rest : List HostLine}
      (open_ : host.result = none) (reading : host.reader = .reading)
      (next : host.input = .unreadable :: rest) :
      Step outside host { host with result := some (.error .unreadableInput) }
  | work {host : Host World} {text : List UInt8} {rest : List (List UInt8)}
      {protocol : Protocol World}
      (alive : host.worker = .running protocol) (next : host.inbound = text :: rest) :
      Step outside host { host with
        inbound := rest
        worker := workerAfter (Protocol.handleText outside text protocol)
        outbound := host.outbound ++
          messagesOf (Protocol.handleText outside text protocol).record }
  | rest {host : Host World} {protocol : Protocol World}
      (alive : host.worker = .running protocol) (next : host.inbound = [])
      (closed : host.reader = .closed) :
      Step outside host { host with worker := .ended (.ok ()) }
  /-- A message is written.  The reader also writes, so not while a line is held. -/
  | write {host : Host World} {message : ServerMessage} {rest : List ServerMessage}
      (open_ : host.result = none) (free : ∀ text, host.reader ≠ .holding text)
      (next : host.outbound = message :: rest) :
      Step outside host { host with outbound := rest, output := host.output ++ message.line }
  | finish {host : Host World} {result : Except HostError Unit}
      (open_ : host.result = none) (free : ∀ text, host.reader ≠ .holding text)
      (stopped : host.worker = .ended result) (written : host.outbound = []) :
      Step outside host { host with result := some result }

/-- What a host can come to. -/
inductive Reaches (outside : Collaborators World) : Host World → Host World → Prop where
  | refl (host : Host World) : Reaches outside host host
  | step {first middle last : Host World} (before : Reaches outside first middle)
      (next : Step outside middle last) : Reaches outside first last

end Host

end LiveSpeech
