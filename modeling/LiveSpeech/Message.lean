import LiveSpeech.Json.Tagged
import LiveSpeech.Json.Writer

/-!
# The messages between client and server

A client opens a session with the arguments of the decoder and the rate of its audio, starts
listening, sends audio and cancels.  A server says that it is ready, or how it is used, and
delivers transcripts.  Each message is one JSON object with its kind under `type`.

Both kinds of message have a reader and a writer.  A written message contains no line feed,
so that one line is one message.
-/

namespace LiveSpeech

set_option autoImplicit false

open LiveSpeech.Json LiveSpeech.Text

/-- What a client asks for. -/
inductive ClientMessage where
  | init (arguments : List String) (rate : Float32)
  | start
  | audio (samples : List Float32)
  | cancel

/-- What a server answers. -/
inductive ServerMessage where
  | ready
  | usage (text : String)
  | transcript (text : String)
  deriving DecidableEq, Repr

/-- The wording of the error that a message cannot be read. -/
def unreadableMessage (fault : Fault) : String := "Failed to parse message: " ++ fault.message

namespace ClientMessage

/-- The tags of client messages. -/
def family : Family := ⟨"ClientMessage", ["init", "start", "audio", "cancel"]⟩

/-- The arguments of an opening message. -/
def argumentsField : NamedField (List String) := ⟨"args", takeList takeString⟩

/-- The rate of an opening message. -/
def rateField : NamedField Float32 := ⟨"sample_frequency", takeSingle⟩

/-- The samples of an audio message. -/
def samplesField : NamedField (List Float32) := ⟨"audio", takeList takeSingle⟩

/-- The message with the given tag and fields. -/
def ofFields (tag : String) (fields : Fields) : Except Mismatch ClientMessage :=
  if tag = "init" then
    (fields.pair "ClientMessage::Init" argumentsField rateField).map fun (arguments, rate) =>
      .init arguments rate
  else if tag = "start" then fields.empty.map fun () => .start
  else if tag = "audio" then
    (fields.single "ClientMessage::Audio" samplesField).map .audio
  else if tag = "cancel" then fields.empty.map fun () => .cancel
  else .error (.unknownVariant tag family.tags)

/-- The message that a text is. -/
def decode (text : List UInt8) : Except Fault ClientMessage := family.decode ofFields text

/-- The message as text. -/
def encode : ClientMessage → String
  | .init arguments rate => String.ofList <| objectText [("type", stringText "init"),
      ("args", listText (arguments.map stringText)), ("sample_frequency", singleText rate)]
  | .start => String.ofList <| objectText [("type", stringText "start")]
  | .audio samples => String.ofList <| objectText [("type", stringText "audio"),
      ("audio", listText (samples.map singleText))]
  | .cancel => String.ofList <| objectText [("type", stringText "cancel")]

end ClientMessage

namespace ServerMessage

/-- The tags of server messages. -/
def family : Family := ⟨"ServerMessage", ["ready", "usage", "transcript"]⟩

/-- The text of a usage message. -/
def usageField : NamedField String := ⟨"text", takeString⟩

/-- The words of a transcript. -/
def transcriptField : NamedField String := ⟨"transcript", takeString⟩

/-- The message with the given tag and fields. -/
def ofFields (tag : String) (fields : Fields) : Except Mismatch ServerMessage :=
  if tag = "ready" then fields.empty.map fun () => .ready
  else if tag = "usage" then (fields.single "ServerMessage::Usage" usageField).map .usage
  else if tag = "transcript" then
    (fields.single "ServerMessage::Transcript" transcriptField).map .transcript
  else .error (.unknownVariant tag family.tags)

/-- The message that a text is. -/
def decode (text : List UInt8) : Except Fault ServerMessage := family.decode ofFields text

/-- The message as text. -/
def encode : ServerMessage → String
  | .ready => String.ofList <| objectText [("type", stringText "ready")]
  | .usage text => String.ofList <|
      objectText [("type", stringText "usage"), ("text", stringText text)]
  | .transcript text => String.ofList <|
      objectText [("type", stringText "transcript"), ("transcript", stringText text)]

/-- The message as a line of bytes, its line feed included. -/
def line (message : ServerMessage) : List UInt8 := utf8 message.encode ++ [10]

end ServerMessage

end LiveSpeech
