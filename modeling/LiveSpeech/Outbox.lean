import LiveSpeech.Action

/-!
# Messages on their way out

Messages for the client are handed over to whoever writes them.  Handing over never waits and
never fails: when nobody takes messages any more, they are lost and the log says so.
-/

namespace LiveSpeech

set_option autoImplicit false

/-- Messages that have been handed over, and whether anybody takes more. -/
structure Outbox where
  messages : List ServerMessage
  isOpen : Bool
  deriving DecidableEq, Repr

namespace Outbox

/-- Nothing has been handed over yet. -/
def empty : Outbox := ⟨[], true⟩

/-- From now on no message is taken. -/
def close (outbox : Outbox) : Outbox := { outbox with isOpen := false }

/-- Hands a message over. -/
def emit {Failed : Type} (message : ServerMessage) : Action Outbox Failed Unit := fun outbox =>
  if outbox.isOpen then ⟨.ok (), { outbox with messages := outbox.messages ++ [message] }, []⟩
  else ⟨.ok (), outbox, [.note .outputClosed]⟩

end Outbox

end LiveSpeech
