import LiveSpeech.Host
import LiveSpeech.Proofs.Landmarks
import LiveSpeech.Proofs.Action
import Mathlib.Data.List.Induction

/-!
# Messages one by one

The messages of a stream are handled one after the other, each on what the one before has left,
up to and including the first whose handling fails (`Protocol.handleAll`).  What a message comes
to does not depend on those behind it (`handleAll_append`), and handling fails exactly at the
first message that fails (`handleAll_error_iff`).
-/

namespace LiveSpeech

set_option autoImplicit false

variable {World : Type}

/-- Handles messages one after the other until one fails. -/
def Protocol.handleAll (outside : Collaborators World) :
    List (List UInt8) → Action (Protocol World) Failure Unit
  | [] => .done ()
  | text :: others => do
    handleText outside text
    handleAll outside others

/-- The messages among the lines. -/
def textsOf (lines : List HostLine) : List (List UInt8) :=
  lines.filterMap fun
    | .message text => some text
    | _ => none

@[simp] theorem textsOf_append (first second : List HostLine) :
    textsOf (first ++ second) = textsOf first ++ textsOf second :=
  List.filterMap_append

section HandleAll

variable (outside : Collaborators World)

/-- Messages in two parts are the first part and then, unless it fails, the second. -/
theorem handleAll_append (first second : List (List UInt8)) :
    Protocol.handleAll outside (first ++ second) = (do
      Protocol.handleAll outside first
      Protocol.handleAll outside second) := by
  induction first with
  | nil => exact (pure_bind () fun _ => Protocol.handleAll outside second).symm
  | cons text first ih =>
    simp only [List.cons_append, Protocol.handleAll, bind_assoc, ih]

variable {outside} {protocol : Protocol World} {before after : List (List UInt8)}

/-- Behind a failure nothing is handled. -/
theorem handleAll_append_of_error {failure : Failure}
    (failed : (Protocol.handleAll outside before protocol).answer = .error failure) :
    Protocol.handleAll outside (before ++ after) protocol =
      Protocol.handleAll outside before protocol := by
  rw [handleAll_append, Action.bind_error failed, ← failed]

/-- What the first messages leave in the record stays there. -/
theorem record_handleAll_before (before after : List (List UInt8)) :
    (Protocol.handleAll outside before protocol).record <+:
      (Protocol.handleAll outside (before ++ after) protocol).record := by
  rw [handleAll_append]
  rcases Action.bind_cases (Protocol.handleAll outside before)
    (fun _ => Protocol.handleAll outside after) protocol with ⟨_, _, run⟩ | ⟨_, _, run⟩
  · exact ⟨[], by rw [run, List.append_nil]⟩
  · rw [run]
    exact List.prefix_append _ _

/-- One more message is handled on what the others have left. -/
theorem handleAll_concat_of_ok
    (answered : (Protocol.handleAll outside before protocol).answer = .ok ())
    (text : List UInt8) :
    let earlier := Protocol.handleAll outside before protocol
    Protocol.handleAll outside (before ++ [text]) protocol =
      (Protocol.handleText outside text earlier.state).after earlier.record := by
  have single : Protocol.handleAll outside [text] = Protocol.handleText outside text :=
    bind_pure (Protocol.handleText outside text)
  intro earlier
  rw [handleAll_append, Action.bind_ok answered, single]

variable (outside protocol) in
/-- There is a message that fails, when those before it have been handled. -/
def FailsAtSome (texts : List (List UInt8)) (failure : Failure) : Prop :=
  ∃ before text after, texts = before ++ text :: after ∧
    (Protocol.handleAll outside before protocol).answer = .ok () ∧
    (Protocol.handleText outside text
      (Protocol.handleAll outside before protocol).state).answer = .error failure

/-- **Handling fails exactly at the first message that fails.** -/
theorem handleAll_error_iff {texts : List (List UInt8)} {failure : Failure} :
    (Protocol.handleAll outside texts protocol).answer = .error failure ↔
      FailsAtSome outside protocol texts failure := by
  constructor
  · induction texts using List.reverseRecOn with
    | nil => nofun
    | append_singleton texts text ih =>
      intro failed
      cases answered : (Protocol.handleAll outside texts protocol).answer with
      | ok _ =>
        rw [handleAll_concat_of_ok answered] at failed
        exact ⟨texts, text, [], rfl, answered, failed⟩
      | error other =>
        rw [handleAll_append_of_error answered, answered] at failed
        obtain rfl := Except.error.inj failed
        obtain ⟨before, first, after, rfl, answered', failed'⟩ := ih answered
        exact ⟨before, first, after ++ [text], by simp, answered', failed'⟩
  · rintro ⟨before, text, after, rfl, answered, failed⟩
    have stopped : (Protocol.handleAll outside (before ++ [text]) protocol).answer =
        .error failure := by
      rw [handleAll_concat_of_ok answered, Outcome.after_answer, failed]
    rw [List.append_cons, handleAll_append_of_error stopped, stopped]

end HandleAll

/-! ## What is written -/

@[simp] theorem writtenLines_append (first second : List Event) :
    writtenLines (first ++ second) = writtenLines first ++ writtenLines second := by
  simp only [writtenLines, messagesOf_append, List.flatMap_append]

theorem writtenLines_before {first second : List Event} (before : first <+: second) :
    writtenLines first <+: writtenLines second := by
  obtain ⟨rest, rfl⟩ := before
  rw [writtenLines_append]
  exact List.prefix_append _ _

end LiveSpeech
