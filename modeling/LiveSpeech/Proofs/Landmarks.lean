import Mathlib.Data.List.Basic
import LiveSpeech.Action

/-!
# Landmarks of a record

A record is looked at through its landmarks: the chunks on their way to the engine, the looks
for the end of the utterance, and the messages.  Everything else on the way is quiet, and what
is read off the landmarks is the same in the whole record.  The calls and messages of a record are
all of it but the notices.
-/

namespace LiveSpeech

set_option autoImplicit false

/-- Whether an event is neither a chunk on its way to the engine, nor a look for the end of the
utterance, nor a message. -/
def Event.isQuiet : Event → Bool
  | .call (.acceptWaveform _ _ _ _) => false
  | .call (.endpointDetected _ _ _) => false
  | .send _ => false
  | _ => true

/-- The samples of a chunk on its way to an engine. -/
def Event.chunk? : Event → Option (List Float32)
  | .call (.acceptWaveform _ _ samples _) => some samples
  | _ => none

/-- Whether an engine reports that the utterance has ended. -/
def Event.reportsEnd : Event → Bool
  | .call (.endpointDetected _ _ answer) => answer
  | _ => false

/-- The events of a record that are not quiet. -/
def landmarksOf (record : List Event) : List Event := record.filter fun event => !event.isQuiet

/-- The chunks that were passed on to engines. -/
def chunksOf (record : List Event) : List (List Float32) := record.filterMap Event.chunk?

/-- An engine has reported the end of an utterance. -/
def EndReported (record : List Event) : Prop := ∃ event ∈ record, event.reportsEnd = true

/-- No chunk is passed on after an engine has reported the end. -/
def ChunksEnd (record : List Event) : Prop :=
  record.Pairwise fun earlier later => earlier.reportsEnd = true → later.chunk? = none

@[simp] theorem landmarksOf_append (first second : List Event) :
    landmarksOf (first ++ second) = landmarksOf first ++ landmarksOf second :=
  List.filter_append ..

@[simp] theorem chunksOf_append (first second : List Event) :
    chunksOf (first ++ second) = chunksOf first ++ chunksOf second :=
  List.filterMap_append

theorem chunksOf_cons_of_reportsEnd {event : Event} (reports : event.reportsEnd = true)
    (record : List Event) : chunksOf (event :: record) = chunksOf record := by
  cases event with
  | call call => cases call <;> first | rfl | cases reports
  | note notice => cases reports
  | send message => cases reports

@[simp] theorem messagesOf_append (first second : List Event) :
    messagesOf (first ++ second) = messagesOf first ++ messagesOf second :=
  List.filterMap_append

@[simp] theorem endReported_append (first second : List Event) :
    EndReported (first ++ second) ↔ EndReported first ∨ EndReported second := by
  simp only [EndReported, List.mem_append, or_and_right, exists_or]

/-- Two records in a row pass no chunk on after the end if neither does, and the second passes
none on when the first has reported the end. -/
theorem ChunksEnd.append {first second : List Event} (before : ChunksEnd first)
    (after : ChunksEnd second) (none : EndReported first → chunksOf second = []) :
    ChunksEnd (first ++ second) := by
  refine List.pairwise_append.mpr ⟨before, after, ?_⟩
  intro earlier member later among reports
  exact List.filterMap_eq_nil_iff.mp (none ⟨earlier, member, reports⟩) later among

/-- What comes behind a report of the end has no chunk. -/
theorem ChunksEnd.chunksOf_eq_nil {before after : List Event} {event : Event}
    (ends : ChunksEnd (before ++ event :: after)) (reports : event.reportsEnd = true) :
    chunksOf after = [] := by
  have behind := (List.pairwise_cons.mp (List.pairwise_append.mp ends).2.1).1
  exact List.filterMap_eq_nil_iff.mpr fun later among => behind later among reports

/-! ## The landmarks and the whole record -/

/-- A record of quiet events has no landmark. -/
theorem landmarksOf_eq_nil {record : List Event} (quiet : ∀ event ∈ record, event.isQuiet = true) :
    landmarksOf record = [] := by
  refine List.filter_eq_nil_iff.mpr fun event member => ?_
  simp [quiet event member]

/-- What is no quiet event is in the record if it is among the landmarks. -/
theorem mem_landmarksOf {event : Event} (loud : event.isQuiet = false) (record : List Event) :
    event ∈ landmarksOf record ↔ event ∈ record := by
  simp [landmarksOf, loud]

/-- A view that keeps no notices keeps nothing of a record of notices. -/
theorem filter_notices {kept : Event → Bool} (blind : ∀ notice, kept (.note notice) = false)
    (notices : List Notice) : (notices.map .note).filter kept = [] := by
  refine List.filter_eq_nil_iff.mpr fun event member => ?_
  obtain ⟨notice, _, rfl⟩ := List.mem_map.mp member
  simp [blind notice]

theorem Event.chunk?_of_isQuiet {event : Event} (quiet : event.isQuiet = true) :
    event.chunk? = none := by
  cases event with
  | call call => cases call <;> first | rfl | cases quiet
  | note notice => rfl
  | send message => rfl

theorem Event.isQuiet_of_reportsEnd {event : Event} (reports : event.reportsEnd = true) :
    event.isQuiet = false := by
  cases event with
  | call call => cases call <;> first | rfl | cases reports
  | note notice => cases reports
  | send message => cases reports

/-- A view that passes over quiet events sees the same in the landmarks. -/
theorem filterMap_landmarksOf {α : Type} (view : Event → Option α)
    (blind : ∀ event, event.isQuiet = true → view event = none) (record : List Event) :
    (landmarksOf record).filterMap view = record.filterMap view := by
  rw [landmarksOf, List.filterMap_filter]
  refine List.filterMap_congr fun event _ => ?_
  cases quiet : event.isQuiet with
  | false => simp
  | true => simp [blind event quiet]

theorem chunksOf_landmarksOf (record : List Event) :
    chunksOf (landmarksOf record) = chunksOf record :=
  filterMap_landmarksOf _ (fun _ => Event.chunk?_of_isQuiet) record

theorem messagesOf_landmarksOf (record : List Event) :
    messagesOf (landmarksOf record) = messagesOf record := by
  refine filterMap_landmarksOf _ (fun event quiet => ?_) record
  cases event with
  | call call => rfl
  | note notice => rfl
  | send message => cases quiet

/-- A record of quiet events sends nothing. -/
theorem messagesOf_quiet {record : List Event} (quiet : ∀ event ∈ record, event.isQuiet = true) :
    messagesOf record = [] := by
  rw [← messagesOf_landmarksOf, landmarksOf_eq_nil quiet]
  rfl

theorem endReported_landmarksOf (record : List Event) :
    EndReported (landmarksOf record) ↔ EndReported record := by
  constructor
  · rintro ⟨event, member, reports⟩
    exact ⟨event, List.mem_of_mem_filter member, reports⟩
  · rintro ⟨event, member, reports⟩
    exact ⟨event, (mem_landmarksOf (Event.isQuiet_of_reportsEnd reports) record).mpr member,
      reports⟩

/-! ## Calls and messages -/

/-- What a record does to the outside: the calls with their answers and the messages, in their
order. -/
def effectsOf (record : List Event) : List Event :=
  record.filter fun
    | .note _ => false
    | _ => true

@[simp] theorem effectsOf_append (first second : List Event) :
    effectsOf (first ++ second) = effectsOf first ++ effectsOf second :=
  List.filter_append ..

@[simp] theorem effectsOf_notices (notices : List Notice) :
    effectsOf (notices.map .note) = [] :=
  filter_notices (fun _ => rfl) notices

theorem messagesOf_notices (notices : List Notice) : messagesOf (notices.map .note) = [] :=
  List.filterMap_eq_nil_iff.mpr (List.forall_mem_map.mpr fun _ _ => rfl)

theorem callsOf_notices (notices : List Notice) : callsOf (notices.map .note) = [] :=
  List.filterMap_eq_nil_iff.mpr (List.forall_mem_map.mpr fun _ _ => rfl)

/-- What holds of every notice holds of a whole record if it holds of the calls and messages. -/
theorem forall_mem_effectsOf {property : Event → Prop} (noted : ∀ notice, property (.note notice))
    {record : List Event} :
    (∀ event ∈ effectsOf record, property event) ↔ ∀ event ∈ record, property event := by
  constructor
  · intro holds event member
    cases event with
    | note notice => exact noted notice
    | call call => exact holds _ (List.mem_filter.mpr ⟨member, rfl⟩)
    | send message => exact holds _ (List.mem_filter.mpr ⟨member, rfl⟩)
  · exact fun holds event member => holds event (List.mem_of_mem_filter member)

theorem landmarksOf_effectsOf (record : List Event) :
    landmarksOf (effectsOf record) = landmarksOf record := by
  rw [landmarksOf, effectsOf, List.filter_filter]
  refine List.filter_congr fun event _ => ?_
  cases event <;> simp [Event.isQuiet]

end LiveSpeech
