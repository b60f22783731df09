import LiveSpeech.Proofs.Members

/-!
# What a text asks for

A client message is an object with a tag and the fields of its variant.  Which message it is
depends on the members with these names alone (`ClientMessage.Asks`): each has to be there once and
has to hold what it is for, and every other member may hold anything.
-/

namespace LiveSpeech.ClientMessage

set_option autoImplicit false

open LiveSpeech.Json LiveSpeech.Text

variable {members : List (String × Value)} {text : List UInt8} {message : ClientMessage}

/-- What the members of an object ask for. -/
inductive Asks (members : List (String × Value)) : ClientMessage → Prop where
  | init {arguments : List String} {rate : Numeral} (tag : Once members "type" (.string "init"))
      (held : Once members "args" (.list (arguments.map .string)))
      (held' : Once members "sample_frequency" (.number rate)) :
      Asks members (.init arguments rate.single)
  | start (tag : Once members "type" (.string "start")) : Asks members .start
  | audio {samples : List Numeral} (tag : Once members "type" (.string "audio"))
      (held : Once members "audio" (.list (samples.map .number))) :
      Asks members (.audio (samples.map Numeral.single))
  | cancel (tag : Once members "type" (.string "cancel")) : Asks members .cancel

theorem holds_arguments {arguments : List String} :
    argumentsField.Holds (members.filter (·.1 ≠ tagKey)) arguments ↔
      Once members "args" (.list (arguments.map .string)) := by
  rw [Takes.holds_iff (takes_string.list : Takes argumentsField.take _ _)]
  simp only [List.map_id_fun, id_eq, exists_eq_right]
  exact once_filter (by decide)

theorem holds_rate {rate : Float32} :
    rateField.Holds (members.filter (·.1 ≠ tagKey)) rate ↔
      ∃ numeral, Once members "sample_frequency" (.number numeral) ∧ numeral.single = rate := by
  rw [Takes.holds_iff (takes_single : Takes rateField.take _ _)]
  exact exists_congr fun numeral => and_congr_left fun _ => once_filter (by decide)

theorem holds_samples {samples : List Float32} :
    samplesField.Holds (members.filter (·.1 ≠ tagKey)) samples ↔
      ∃ numerals : List Numeral, Once members "audio" (.list (numerals.map .number)) ∧
        numerals.map Numeral.single = samples := by
  rw [Takes.holds_iff (takes_single.list : Takes samplesField.take _ _)]
  exact exists_congr fun numerals => and_congr_left fun _ => once_filter (by decide)

/-- **An object is read as what its members ask for.** -/
theorem decode_eq_ok_iff (denotes : Denotes 0 text (.object members)) :
    decode text = .ok message ↔ Asks members message := by
  rw [decode, decode_object denotes]
  constructor
  · rintro ⟨tag, known, once, said⟩
    simp only [family, List.mem_cons, List.not_mem_nil, or_false] at known
    rcases known with rfl | rfl | rfl | rfl
    · obtain ⟨⟨arguments, rate⟩, read, rfl⟩ := eq_ok_of_map said
      obtain ⟨first, second⟩ := (Fields.pair_eq_ok_iff _ (by decide)).mp read
      obtain ⟨numeral, held, rfl⟩ := holds_rate.mp second
      exact .init once (holds_arguments.mp first) held
    · cases said
      exact .start once
    · obtain ⟨samples, read, rfl⟩ := eq_ok_of_map said
      obtain ⟨numerals, held, rfl⟩ := holds_samples.mp ((Fields.single_eq_ok_iff _).mp read)
      exact .audio once held
    · cases said
      exact .cancel once
  · rintro (⟨once, held, held'⟩ | once | ⟨once, held⟩ | once)
    · have read := (Fields.pair_eq_ok_iff "ClientMessage::Init" (by decide)).mpr
        ⟨holds_arguments.mpr held, holds_rate.mpr ⟨_, held', rfl⟩⟩
      exact ⟨"init", by decide, once, by rw [ofFields, if_pos rfl, read]; rfl⟩
    · exact ⟨"start", by decide, once, rfl⟩
    · have read := (Fields.single_eq_ok_iff "ClientMessage::Audio").mpr
        (holds_samples.mpr ⟨_, held, rfl⟩)
      exact ⟨"audio", by decide, once, congrArg (Except.map _) read⟩
    · exact ⟨"cancel", by decide, once, rfl⟩

/-- The fields that a variant carries, each with what it has to hold. -/
def carried : String → List (String × (Value → Prop))
  | "init" =>
    [("args", fun value => ∃ arguments : List String, value = .list (arguments.map .string)),
      ("sample_frequency", fun value => ∃ rate, value = .number rate)]
  | "audio" =>
    [("audio", fun value => ∃ samples : List Numeral, value = .list (samples.map .number))]
  | _ => []

/-- The tag is at fault, or a field that its variant carries. -/
inductive Unfit (members : List (String × Value)) : Prop where
  | tag (faulty : Faulty members "type" fun value =>
      ∃ tag ∈ ["init", "start", "audio", "cancel"], value = .string tag)
  | field {tag : String} {field : String × (Value → Prop)}
      (tagged : ("type", .string tag) ∈ members) (carries : field ∈ carried tag)
      (faulty : Faulty members field.1 field.2)

theorem exists_asks_iff :
    (∃ message, Asks members message) ↔
      ∃ tag ∈ ["init", "start", "audio", "cancel"], Once members "type" (.string tag) ∧
        ∀ field ∈ carried tag, ∃ value, Once members field.1 value ∧ field.2 value := by
  constructor
  · rintro ⟨_, ⟨tag, held, held'⟩ | tag | ⟨tag, held⟩ | tag⟩
    · exact ⟨"init", by decide, tag, List.forall_mem_cons.mpr ⟨⟨_, held, _, rfl⟩,
        List.forall_mem_singleton.mpr ⟨_, held', _, rfl⟩⟩⟩
    · exact ⟨"start", by decide, tag, List.forall_mem_nil _⟩
    · exact ⟨"audio", by decide, tag, List.forall_mem_singleton.mpr ⟨_, held, _, rfl⟩⟩
    · exact ⟨"cancel", by decide, tag, List.forall_mem_nil _⟩
  · rintro ⟨tag, known, once, fields⟩
    simp only [List.mem_cons, List.not_mem_nil, or_false] at known
    rcases known with rfl | rfl | rfl | rfl
    · obtain ⟨⟨_, held, arguments, rfl⟩, others⟩ := List.forall_mem_cons.mp fields
      obtain ⟨_, held', rate, rfl⟩ := List.forall_mem_singleton.mp others
      exact ⟨_, .init once held held'⟩
    · exact ⟨_, .start once⟩
    · obtain ⟨_, held, samples, rfl⟩ := List.forall_mem_singleton.mp fields
      exact ⟨_, .audio once held⟩
    · exact ⟨_, .cancel once⟩

/-- The members of an object ask for nothing exactly if the tag or a field is at fault. -/
theorem unfit_iff : Unfit members ↔ ¬∃ message, Asks members message := by
  rw [exists_asks_iff]
  constructor
  · rintro (faulty | ⟨tagged, carries, faulty⟩) ⟨tag, known, once, fields⟩
    · exact not_faulty_iff.mpr ⟨_, once, tag, known, rfl⟩ faulty
    · obtain rfl := Value.string.inj (once.mem_iff.mp tagged)
      exact not_faulty_iff.mpr (fields _ carries) faulty
  · intro none
    by_contra fit
    obtain ⟨_, once, tag, known, rfl⟩ := not_faulty_iff.mp fun faulty => fit (.tag faulty)
    exact none ⟨tag, known, once, fun field carries =>
      not_faulty_iff.mp fun faulty => fit (.field (once.mem_iff.mpr rfl) carries faulty)⟩

/-- Other members and another order say the same. -/
theorem Asks.of_perm (asks : Asks members message) {others shuffled : List (String × Value)}
    (perm : shuffled.Perm (members ++ others))
    (strange : ∀ member ∈ others, member.1 ∉ ["type", "args", "sample_frequency", "audio"]) :
    Asks shuffled message := by
  have keeps {name : String} {value : Value} (once : Once members name value)
      (known : name ∈ ["type", "args", "sample_frequency", "audio"]) : Once shuffled name value :=
    once.of_perm perm fun member among same => strange member among (same ▸ known)
  cases asks with
  | init tag held held' =>
    exact .init (keeps tag (by decide)) (keeps held (by decide)) (keeps held' (by decide))
  | start tag => exact .start (keeps tag (by decide))
  | audio tag held => exact .audio (keeps tag (by decide)) (keeps held (by decide))
  | cancel tag => exact .cancel (keeps tag (by decide))

/-- **What a text asks for depends on the members it needs alone.**  A text that is read as a
message denotes an object or a list.  An object with the same members in any order, spelled and laid
out in any way, and with any others whose names no variant has, is read as the same message; and an
object is refused exactly if its tag or a field of its variant is missing, repeated or unfit. -/
theorem decode_by_members (text : List UInt8) :
    (∀ message, decode text = .ok message →
      (∃ members, Denotes 0 text (.object members)) ∨ ∃ items, Denotes 0 text (.list items)) ∧
    ∀ members, Denotes 0 text (.object members) →
      (∀ message, decode text = .ok message →
        ∀ (text' : List UInt8) (others shuffled : List (String × Value)),
          Denotes 0 text' (.object shuffled) → shuffled.Perm (members ++ others) →
          (∀ member ∈ others, member.1 ∉ ["type", "args", "sample_frequency", "audio"]) →
          decode text' = .ok message) ∧
      ((∃ fault, decode text = .error fault) ↔ Unfit members) := by
  refine ⟨fun message => denotes_of_decode, fun members denotes => ⟨?_, ?_⟩⟩
  · intro message read text' others shuffled denotes' perm strange
    have asks := (decode_eq_ok_iff denotes).mp read
    exact (decode_eq_ok_iff denotes').mpr (asks.of_perm perm strange)
  · simp only [unfit_iff, ← decode_eq_ok_iff denotes]
    cases decode text with
    | error fault => exact iff_of_true ⟨fault, rfl⟩ nofun
    | ok message => exact iff_of_false nofun fun none => none ⟨message, rfl⟩

/-- A tag behind a nested member that means nothing, and audio without samples. -/
theorem decode_by_members_small :
    decode (utf8 "\x7b\"type\":\"start\"\x7d") = .ok .start ∧
      decode (utf8 " \x7b\"x\" : [\x7b\x7d, 7] ,\n\"type\": \"start\" \x7d") = .ok .start ∧
      ∃ fault, decode (utf8 "\x7b\"type\":\"audio\"\x7d") = .error fault := by
  have start : decode (utf8 "\x7b\"type\":\"start\"\x7d") = .ok .start := rfl
  have denotes : Denotes 0 (utf8 "\x7b\"type\":\"start\"\x7d")
      (.object [("type", .string "start")]) := parse_eq_ok_iff.mp rfl
  have denotes' : Denotes 0 (utf8 " \x7b\"x\" : [\x7b\x7d, 7] ,\n\"type\": \"start\" \x7d")
      (.object [("x", .list [.object [], .number (.natural 7)]), ("type", .string "start")]) :=
    parse_eq_ok_iff.mp rfl
  have silent : Denotes 0 (utf8 "\x7b\"type\":\"audio\"\x7d")
      (.object [("type", .string "audio")]) := parse_eq_ok_iff.mp rfl
  refine ⟨start, ?_, ?_⟩
  · exact ((decode_by_members _).2 _ denotes).1 _ start _ _ _ denotes' (.swap _ _ _) (by decide)
  · exact ((decode_by_members _).2 _ silent).2.mpr
      (.field (.head _) (.head _) (.missing (by decide)))

end LiveSpeech.ClientMessage
