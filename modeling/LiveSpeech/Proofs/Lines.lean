import LiveSpeech.Host
import LiveSpeech.Proofs.Quoting

/-!
# Messages on their lines

What a server writes is read back.  A tagged object of strings is read back under the watch of
its family, as its tag and its fields in their order (`decode_tagged`): the tag comes first, so
that no second one can be met, and the other members are strings with names of their own.  Every
message of a server is such an object (`ServerMessage.decode_encode`).

A written message has no control character, and so no line feed
(`ServerMessage.lineFeed_not_mem_encode`).  That is why the lines of messages can be cut apart
again: what stands between line feeds and is not empty are the messages, each with all of its text
(`messages_survive_lines`).
-/

namespace LiveSpeech.Json

set_option autoImplicit false

open LiveSpeech.Text

/-! ## Steps of reading -/

section Read

variable {watch : Watch} {place next : Place} {token : Token} {rest : List Token}

theorem Place.read_done (whole : Value) (rest : List Token) :
    (Place.done whole).read watch rest = .ok (whole, rest) := by
  rw [Place.read]

theorem Place.read_step (went : place.step watch token = .ok next)
    (unfinished : ∀ whole, place ≠ .done whole) :
    place.read watch (token :: rest) = next.read watch rest := by
  rw [Place.read, went]
  · rfl
  · exact unfinished

/-- A member that is a string is read with the sign before its value. -/
theorem Place.read_member {members : List (String × Value)} {key content : String}
    (entering : place.step watch (.string (.ok key)) = .ok (.afterKey members key []))
    (unfinished : ∀ whole, place ≠ .done whole)
    (taken : watch.member key (.string content) = .ok ()) :
    place.read watch (.string (.ok key) :: .colon :: .string (.ok content) :: rest) =
      (Place.afterMember ((key, .string content) :: members) []).read watch rest := by
  have value : (Place.value [.object members key]).step watch (.string (.ok content)) =
      .ok (.afterMember ((key, .string content) :: members) []) := by
    simp only [Place.step, startValue, Watch.start, taken, watched, Place.after]
  have colon : (Place.afterKey members key []).step watch .colon =
      .ok (.value [.object members key]) := rfl
  rw [read_step entering unfinished, read_step colon nofun, read_step value nofun]

end Read

/-! ## Tagged objects of strings -/

/-- Members that are strings, as they are written. -/
def stringMembers (fields : List (String × String)) : List (String × List Char) :=
  fields.map fun (key, content) => (key, stringText content)

/-- Members that are strings, as they are read. -/
def stringFields (fields : List (String × String)) : List (String × Value) :=
  fields.map fun (key, content) => (key, .string content)

/-- A member that is a string. -/
def memberText (key content : String) : List Char := stringText key ++ ':' :: stringText content

/-- Members behind the first one. -/
def furtherMembers (fields : List (String × String)) : List Char :=
  fields.flatMap fun (key, content) => ',' :: memberText key content

theorem separated_cons (first : List Char) (others : List (List Char)) :
    separated (first :: others) = first ++ others.flatMap fun item => ',' :: item := by
  induction others generalizing first with
  | nil => simp [separated]
  | cons second others ih => rw [separated, ih, List.flatMap_cons, List.cons_append]

theorem objectText_cons (key content : String) (fields : List (String × String)) :
    objectText ((key, stringText content) :: stringMembers fields) =
      '\x7b' :: (memberText key content ++ (furtherMembers fields ++ ['\x7d'])) := by
  rw [objectText, List.map_cons, separated_cons, stringMembers, List.map_map, List.flatMap_map]
  simp only [furtherMembers, memberText, Function.comp_apply, List.cons_append, List.append_assoc]

/-- The tokens of a member. -/
theorem tokensFrom_memberText (key content : String) (behind : List UInt8) :
    tokensFrom 0 (encodeUtf8 (memberText key content) ++ behind) =
      .string (.ok key) :: .colon :: .string (.ok content) :: tokensFrom 0 behind := by
  have colon (rest : List UInt8) : tokensFrom 0 (58 :: rest) = .colon :: tokensFrom 0 rest := rfl
  rw [memberText, encodeUtf8_append, List.append_assoc, tokensFrom_stringText, encodeUtf8_cons,
    List.append_assoc]
  show _ :: tokensFrom 0 (58 :: (encodeUtf8 (stringText content) ++ behind)) = _
  rw [colon, tokensFrom_stringText]

/-- A closed text is looked through character by character. -/
theorem printed_of_all {text : List Char}
    (all : (text.all fun character => decide (32 ≤ character.toNat)) = true) :
    ∀ character ∈ text, 32 ≤ character.toNat := by
  simpa using all

/-- What is printed for a character in a string is no control character. -/
theorem printed_escaped (character : Char) : ∀ other ∈ escaped character, 32 ≤ other.toNat := by
  have digits : ∀ digit < 16, 32 ≤ (hexLetter digit).toNat := by decide
  unfold escaped
  split
  case h_8 =>
    split
    case isTrue control =>
      have high := digits (character.toNat / 16) (by omega)
      have low := digits (character.toNat % 16) (by omega)
      simp only [List.forall_mem_cons]
      exact ⟨by decide, by decide, by decide, by decide, high, low, List.forall_mem_nil _⟩
    case isFalse plain => exact List.forall_mem_singleton.mpr (Nat.le_of_not_lt plain)
  all_goals exact printed_of_all rfl

theorem printed_stringText (content : String) :
    ∀ character ∈ stringText content, 32 ≤ character.toNat := by
  have inside : ∀ character ∈ content.toList.flatMap escaped, 32 ≤ character.toNat := by
    intro character member
    obtain ⟨other, _, among⟩ := List.mem_flatMap.mp member
    exact printed_escaped other character among
  exact List.forall_mem_append.mpr
    ⟨List.forall_mem_cons.mpr ⟨by decide, inside⟩, printed_of_all rfl⟩

theorem printed_memberText (key content : String) :
    ∀ character ∈ memberText key content, 32 ≤ character.toNat :=
  List.forall_mem_append.mpr
    ⟨printed_stringText key, List.forall_mem_cons.mpr ⟨by decide, printed_stringText content⟩⟩

/-- **An object of strings has no control character.** -/
theorem printed_objectText (key content : String) (fields : List (String × String)) :
    ∀ character ∈ objectText ((key, stringText content) :: stringMembers fields),
      32 ≤ character.toNat := by
  have others : ∀ character ∈ furtherMembers fields, 32 ≤ character.toNat := by
    intro character member
    obtain ⟨⟨key, content⟩, _, among⟩ := List.mem_flatMap.mp member
    rcases List.mem_cons.mp among with rfl | among
    · decide
    · exact printed_memberText key content character among
  rw [objectText_cons]
  exact List.forall_mem_cons.mpr ⟨by decide, List.forall_mem_append.mpr
    ⟨printed_memberText key content, List.forall_mem_append.mpr ⟨others, printed_of_all rfl⟩⟩⟩

/-- Members behind the tag are read up to the end of the object. -/
theorem read_furtherMembers (family : Family) {fields : List (String × String)}
    (distinct : ∀ field ∈ fields, field.1 ≠ tagKey) (before : List (String × Value)) :
    Place.read family.watch (.afterMember before [])
        (tokensFrom 0 (encodeUtf8 (furtherMembers fields ++ ['\x7d']))) =
      .ok (.object (before.reverse ++ stringFields fields), []) := by
  induction fields generalizing before with
  | nil =>
    have closed : (Place.afterMember before []).step family.watch .closeObject =
        .ok (.done (.object before.reverse)) := rfl
    show Place.read family.watch (.afterMember before []) [.closeObject] = _
    rw [Place.read_step closed nofun, Place.read_done, stringFields, List.map_nil, List.append_nil]
  | cons field fields ih =>
    obtain ⟨key, content⟩ := field
    obtain ⟨other, distinct⟩ := List.forall_mem_cons.mp distinct
    have comma (rest : List UInt8) : tokensFrom 0 (44 :: rest) = .comma :: tokensFrom 0 rest := rfl
    have separates : (Place.afterMember before []).step family.watch .comma =
        .ok (.nextKey before []) := rfl
    have entering : (Place.nextKey before []).step family.watch (.string (.ok key)) =
        .ok (.afterKey before key []) := by
      have allowed : family.watch.key before key = .ok () := if_neg fun same => other same.1
      simp only [Place.step, startKey, List.isEmpty_nil, if_true, allowed, watched]
    have taken : family.watch.member key (.string content) = .ok () := if_neg other
    rw [furtherMembers, List.flatMap_cons, List.append_assoc, List.cons_append, encodeUtf8_cons,
      encodeUtf8_append]
    show Place.read _ _ (tokensFrom 0 (44 :: (encodeUtf8 (memberText key content) ++
      encodeUtf8 (furtherMembers fields ++ ['\x7d'])))) = _
    rw [comma, tokensFrom_memberText, Place.read_step separates nofun,
      Place.read_member entering nofun taken, ih distinct, List.reverse_cons, List.append_assoc]
    rfl

/-- **A tagged object of strings is read back**, as its tag and its fields. -/
theorem decode_tagged {α : Type} (family : Family)
    (ofFields : String → Fields → Except Mismatch α) {tag : String} (known : tag ∈ family.tags)
    {fields : List (String × String)} (distinct : ∀ field ∈ fields, field.1 ≠ tagKey) :
    family.decode ofFields
        (utf8 (String.ofList (objectText ((tagKey, stringText tag) :: stringMembers fields)))) =
      (ofFields tag (.named (stringFields fields))).mapError .mismatch := by
  have begun : ∀ whole, Place.value [] ≠ .done whole := by
    intro whole same
    cases same
  have entered : ∀ whole, Place.firstKey [] ≠ .done whole := by
    intro whole same
    cases same
  have opens : (Place.value []).step family.watch .openObject = .ok (.firstKey []) := rfl
  have entering : (Place.firstKey []).step family.watch (.string (.ok tagKey)) =
      .ok (.afterKey [] tagKey []) := rfl
  have taken : family.watch.member tagKey (.string tag) = .ok () := by
    show (if tagKey = tagKey then family.checkTag (.string tag) else .ok ()) = .ok ()
    rw [if_pos rfl]
    exact if_pos known
  have opening (rest : List UInt8) :
      tokensFrom 0 (123 :: rest) = .openObject :: tokensFrom 0 rest := rfl
  have read : readValue family.watch (tokens (utf8 (String.ofList
      (objectText ((tagKey, stringText tag) :: stringMembers fields))))) =
        .ok (.object ((tagKey, .string tag) :: stringFields fields), []) := by
    rw [utf8, String.toList_ofList, objectText_cons, encodeUtf8_cons, encodeUtf8_append]
    show Place.read _ _ (tokensFrom 0 (123 :: (encodeUtf8 (memberText tagKey tag) ++
      encodeUtf8 (furtherMembers fields ++ ['\x7d'])))) = _
    rw [opening, tokensFrom_memberText, Place.read_step opens begun,
      Place.read_member entering entered taken, read_furtherMembers family distinct]
    rfl
  have others : (stringFields fields).filter (·.1 ≠ tagKey) = stringFields fields := by
    refine List.filter_eq_self.mpr fun member among => ?_
    obtain ⟨field, within, rfl⟩ := List.mem_map.mp among
    exact decide_eq_true (distinct field within)
  have split : splitTag (.object ((tagKey, .string tag) :: stringFields fields)) =
      .ok (tag, .named (stringFields fields)) := by
    have found : ((tagKey, Value.string tag) :: stringFields fields).find? (·.1 = tagKey) =
        some (tagKey, .string tag) := List.find?_cons_of_pos (decide_eq_true rfl)
    have left : ((tagKey, Value.string tag) :: stringFields fields).filter (·.1 ≠ tagKey) =
        stringFields fields := by
      rw [List.filter_cons_of_neg (by simp), others]
    simp only [splitTag, found, left]
  simp only [Family.decode, read, bind, Except.bind, split]
  cases ofFields tag (.named (stringFields fields)) with
  | error mismatch => rfl
  | ok message => rfl

end LiveSpeech.Json

namespace LiveSpeech

set_option autoImplicit false

open LiveSpeech.Json LiveSpeech.Text

/-! ## Messages of a server -/

namespace ServerMessage

/-- **A message of a server is read back from what is written for it.** -/
theorem decode_encode (message : ServerMessage) :
    ServerMessage.decode (utf8 message.encode) = .ok message := by
  cases message with
  | ready => exact @decode_tagged _ family ofFields "ready" (by decide) [] nofun
  | usage text =>
    exact @decode_tagged _ family ofFields "usage" (by decide) [("text", text)]
      (List.forall_mem_singleton.mpr (show "text" ≠ tagKey by decide))
  | transcript text =>
    exact @decode_tagged _ family ofFields "transcript" (by decide) [("transcript", text)]
      (List.forall_mem_singleton.mpr (show "transcript" ≠ tagKey by decide))

theorem lineFeed_not_mem_encode (message : ServerMessage) : 10 ∉ utf8 message.encode := by
  have printed : ∀ character ∈ message.encode.toList, 32 ≤ character.toNat := by
    cases message with
    | ready => exact printed_of_all rfl
    | usage text =>
      rw [encode, String.toList_ofList]
      exact printed_objectText tagKey "usage" [("text", text)]
    | transcript text =>
      rw [encode, String.toList_ofList]
      exact printed_objectText tagKey "transcript" [("transcript", text)]
  intro member
  exact absurd (control_not_mem_encodeUtf8 printed 10 member) (by decide)

theorem encode_ne_nil (message : ServerMessage) : utf8 message.encode ≠ [] := by
  intro empty
  have decoded := message.decode_encode
  have nothing : ServerMessage.decode [] = .error (.mistake .endInValue) := rfl
  rw [empty, nothing] at decoded
  cases decoded

end ServerMessage

/-! ## Lines of messages -/

/-- The lines of messages are cut apart at their line feeds. -/
theorem fields_lines (messages : List ServerMessage) :
    fields (fun byte => decide (byte = 10)) (messages.flatMap ServerMessage.line) =
      messages.map fun message => utf8 message.encode := by
  induction messages with
  | nil => rfl
  | cons message others ih =>
    have alone := pieces_line 10 message.lineFeed_not_mem_encode
    have behind := @pieces_append_cons _ (fun byte => decide (byte = 10)) (10 : UInt8) rfl
      (utf8 message.encode) (others.flatMap ServerMessage.line)
    have filled : (utf8 message.encode).isEmpty = false :=
      List.isEmpty_eq_false_iff.mpr message.encode_ne_nil
    have kept : [utf8 message.encode].filter (fun piece => !piece.isEmpty) =
        [utf8 message.encode] := List.filter_cons_of_pos (by rw [filled]; rfl)
    rw [List.flatMap_cons, ServerMessage.line, List.append_assoc, List.singleton_append, fields,
      behind, alone, List.filter_append, kept, List.map_cons, ← ih]
    rfl

/-- **Messages survive their lines.**  A message of a server is read back from its text, which has
no line feed.  So the messages that a host writes, whatever texts they carry, are what stands
between the line feeds and is not empty. -/
theorem messages_survive_lines :
    (∀ message : ServerMessage,
      ServerMessage.decode (utf8 message.encode) = .ok message ∧ 10 ∉ utf8 message.encode) ∧
    (∀ messages : List ServerMessage,
      (fields (fun byte => decide (byte = 10)) (messages.flatMap ServerMessage.line)).mapM
        ServerMessage.decode = .ok messages) ∧
    ∀ record : List Event,
      (fields (fun byte => decide (byte = 10)) (writtenLines record)).mapM
        ServerMessage.decode = .ok (messagesOf record) := by
  have lines (messages : List ServerMessage) :
      (fields (fun byte => decide (byte = 10)) (messages.flatMap ServerMessage.line)).mapM
        ServerMessage.decode = .ok messages := by
    rw [fields_lines]
    induction messages with
    | nil => rfl
    | cons message others ih =>
      rw [List.map_cons, List.mapM_cons, ServerMessage.decode_encode, ih]
      rfl
  exact ⟨fun message => ⟨message.decode_encode, message.lineFeed_not_mem_encode⟩, lines,
    fun record => lines (messagesOf record)⟩

/-- A usage text with a line feed, a quote and a backslash stays on its line. -/
example : (ServerMessage.usage "a\n\"b\\").encode =
    "\x7b\"type\":\"usage\",\"text\":\"a\\n\\\"b\\\\\"\x7d" := by
  decide

end LiveSpeech
