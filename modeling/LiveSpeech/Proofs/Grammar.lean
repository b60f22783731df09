import LiveSpeech.Proofs.Layout
import LiveSpeech.Proofs.Lines

/-!
# What a text denotes

A text denotes a value if it is put together from the bytes of tokens as the value is from its
parts, with layout anywhere between them (`Denotes`).  Nothing is said about how a text is read.

A text that denotes a value is read as the value, unless the watch over the outermost container
stops the reader on the way (`Denotes.readValue`).  What the watch says depends on the value alone,
and it says nothing inside of a container in another.
-/

namespace LiveSpeech.Json

set_option autoImplicit false

/-! ## Texts -/

/-- The inside of a container: texts with a comma between each two, or only layout. -/
inductive Row : List (List UInt8) → List UInt8 → Prop where
  | empty {gap : List UInt8} (blank : IsGap gap) : Row [] gap
  | filled (first : List UInt8) (others : List (List UInt8)) :
      Row (first :: others) (first ++ others.flatMap (44 :: ·))

/-- A member of an object with its spelling: the quoted key, with layout around it, and what stands
behind the colon. -/
structure Member where
  before : List UInt8
  quoted : List UInt8
  behind : List UInt8
  key : String
  text : List UInt8
  value : Value

namespace Member

/-- The member as it is spelled. -/
def written (member : Member) : List UInt8 :=
  member.before ++ member.quoted ++ member.behind ++ 58 :: member.text

/-- What the member says. -/
def pair (member : Member) : String × Value := (member.key, member.value)

/-- The key is spelled as a string, with nothing but layout around it. -/
structure Keyed (member : Member) : Prop where
  before : IsGap member.before
  lexeme : IsLexeme member.quoted (.string (.ok member.key))
  behind : IsGap member.behind

end Member

/-- **A text denotes a value** inside of so many containers. -/
inductive Denotes : Nat → List UInt8 → Value → Prop where
  | string {depth : Nat} {text : List UInt8} {content : String}
      (lexeme : IsLexeme text (.string (.ok content))) : Denotes depth text (.string content)
  | atom {depth : Nat} {text : List UInt8} {atom : Atom}
      (lexeme : IsLexeme text (.atom (.ok atom))) : Denotes depth text atom.value
  | list {depth : Nat} {items : List (List UInt8 × Value)} {inside : List UInt8}
      (room : depth + 1 < depthLimit) (row : Row (items.map Prod.fst) inside)
      (each : ∀ item ∈ items, Denotes (depth + 1) item.1 item.2) :
      Denotes depth (91 :: (inside ++ [93])) (.list (items.map Prod.snd))
  | object {depth : Nat} {members : List Member} {inside : List UInt8}
      (room : depth + 1 < depthLimit) (row : Row (members.map Member.written) inside)
      (keyed : ∀ member ∈ members, member.Keyed)
      (each : ∀ member ∈ members, Denotes (depth + 1) member.text member.value) :
      Denotes depth (123 :: (inside ++ [125])) (.object (members.map Member.pair))
  | padded {depth : Nat} {before text behind : List UInt8} {value : Value}
      (blank : IsGap before) (inner : Denotes depth text value) (blank' : IsGap behind) :
      Denotes depth (before ++ text ++ behind) value

/-! ## What the watch says -/

section Watched

variable {α : Type} {watch : Watch}

theorem watched_bind {First Last : Type} (verdict : Except Mismatch Unit)
    (next : Except Fault First) (work : First → Except Fault Last) :
    (watched verdict next).bind work = watched verdict (next.bind work) := by
  cases verdict <;> rfl

theorem watched_watched (first second : Except Mismatch Unit) (next : Except Fault α) :
    watched first (watched second next) = watched (first >>= fun _ => second) next := by
  cases first <;> rfl

theorem eq_ok_of_watched {verdict : Except Mismatch Unit} {next : Except Fault α} {last : α}
    (went : watched verdict next = .ok last) : verdict = .ok () ∧ next = .ok last := by
  cases verdict with
  | error mismatch => cases went
  | ok _ => exact ⟨rfl, went⟩

/-- What the watch says to the items of a list, given the items before them. -/
def Watch.items (watch : Watch) (frames : List Frame) :
    List Value → List Value → Except Mismatch Unit
  | _, [] => .ok ()
  | before, item :: others => do
    watch.start item.found (.list before :: frames)
    watch.items frames (item :: before) others

/-- What the watch says to a key. -/
def Watch.keyed (watch : Watch) (frames : List Frame) (before : List (String × Value))
    (key : String) : Except Mismatch Unit :=
  if frames.isEmpty then watch.key before key else .ok ()

/-- What the watch says to the members of an object, given the members before them. -/
def Watch.members (watch : Watch) (frames : List Frame) :
    List (String × Value) → List (String × Value) → Except Mismatch Unit
  | _, [] => .ok ()
  | before, (key, value) :: others => do
    watch.keyed frames before key
    watch.start value.found (.object before key :: frames)
    watch.members frames ((key, value) :: before) others

theorem watched_members (frames : List Frame) (before : List (String × Value))
    (member : String × Value) (others : List (String × Value)) (next : Except Fault α) :
    watched (watch.keyed frames before member.1)
        (watched (watch.start member.2.found (.object before member.1 :: frames))
          (watched (watch.members frames (member :: before) others) next)) =
      watched (watch.members frames before (member :: others)) next := by
  rw [watched_watched (watch.start _ _), watched_watched]
  rfl

/-- What the watch says to what a value holds. -/
def Watch.inside (watch : Watch) (frames : List Frame) : Value → Except Mismatch Unit
  | .list values => watch.items frames [] values
  | .object members => watch.members frames [] members
  | _ => .ok ()

/-- If the watch says nothing to the items, keys and members it says nothing at all. -/
theorem Watch.inside_eq_ok {frames : List Frame}
    (starts : ∀ found frame, watch.start found (frame :: frames) = .ok ())
    (keys : ∀ before key, watch.keyed frames before key = .ok ()) (value : Value) :
    watch.inside frames value = .ok () := by
  have items (before values : List Value) : watch.items frames before values = .ok () := by
    induction values generalizing before with
    | nil => rfl
    | cons value values ih =>
      rw [Watch.items, starts]
      exact ih (value :: before)
  have members (before members : List (String × Value)) :
      watch.members frames before members = .ok () := by
    induction members generalizing before with
    | nil => rfl
    | cons member members ih =>
      rw [Watch.members, keys, starts]
      exact ih (member :: before)
  cases value with
  | list values => exact items [] values
  | object pairs => exact members [] pairs
  | _ => rfl

/-- Only the outermost container is watched. -/
theorem Watch.inside_of_inner {frames : List Frame} (inner : frames ≠ []) (value : Value) :
    watch.inside frames value = .ok () := by
  obtain ⟨frame, others, rfl⟩ := List.exists_cons_of_ne_nil inner
  exact inside_eq_ok (fun _ frame => by cases frame <;> rfl) (fun _ _ => rfl) value

end Watched

/-! ## Denoted values are read -/

theorem closes_mark {byte : UInt8} (mark : byte ∈ [44, 93, 125]) (behind : List UInt8) :
    Closes (byte :: behind) := by
  rintro _ ⟨⟩
  simp only [List.mem_cons, List.not_mem_nil, or_false] at mark
  rcases mark with rfl | rfl | rfl <;> decide

theorem IsGap.closes_append {gap behind : List UInt8} (blank : IsGap gap) (closes : Closes behind) :
    Closes (gap ++ behind) := by
  cases gap with
  | nil => exact closes
  | cons byte gap => exact closes_of_isLayout (blank byte List.mem_cons_self) _

/-- At the place a value comes next, inside of the given containers. -/
inductive Place.Awaits : Place → List Frame → Prop where
  | value (frames : List Frame) : Awaits (.value frames) frames
  | firstItem (frames : List Frame) : Awaits (.firstItem frames) (.list [] :: frames)
  | nextItem (items : List Value) (frames : List Frame) :
      Awaits (.nextItem items frames) (.list items :: frames)

theorem Place.Awaits.step_eq {place : Place} {frames : List Frame} (awaits : place.Awaits frames)
    (watch : Watch) (token : Token) (opens : token ≠ .closeList) :
    place.step watch token = startValue watch frames token := by
  cases awaits <;> cases token <;> first | rfl | exact absurd rfl opens

theorem Place.Awaits.unfinished {place : Place} {frames : List Frame}
    (awaits : place.Awaits frames) (whole : Value) : place ≠ .done whole := by
  cases awaits <;> nofun

theorem Place.read_cons {watch : Watch} {place : Place} (unfinished : ∀ whole, place ≠ .done whole)
    (token : Token) (rest : List Token) :
    place.read watch (token :: rest) =
      (place.step watch token).bind fun next => next.read watch rest := by
  rw [Place.read]
  exact unfinished

/-- Wherever a value comes next inside of so many containers, the text is read as the value. -/
def ReadsAs (watch : Watch) (depth : Nat) (text : List UInt8) (value : Value) : Prop :=
  ∀ {frames : List Frame} {place : Place} {behind : List UInt8}, frames.length = depth →
    place.Awaits frames → Closes behind →
      place.read watch (tokensFrom 0 (text ++ behind)) =
        watched (watch.start value.found frames) (watched (watch.inside frames value)
          ((Place.after value frames).read watch (tokensFrom 0 behind)))

section Completeness

variable {watch : Watch} {frames : List Frame} {depth : Nat}

/-- What stands behind an item or a member is a comma or a closing bracket. -/
theorem closes_row (others : List (List UInt8)) (mark : UInt8) (closing : mark ∈ [93, 125])
    (behind : List UInt8) : Closes (others.flatMap (44 :: ·) ++ mark :: behind) := by
  cases others with
  | nil => exact closes_mark (List.mem_cons_of_mem 44 closing) behind
  | cons text others => exact closes_mark List.mem_cons_self _

/-- The further items of a list are read up to its end. -/
theorem read_items (deep : frames.length = depth) {others : List (List UInt8 × Value)}
    (reads : ∀ item ∈ others, ReadsAs watch (depth + 1) item.1 item.2) (before : List Value)
    (behind : List UInt8) :
    (Place.afterItem before frames).read watch
        (tokensFrom 0 ((others.map Prod.fst).flatMap (44 :: ·) ++ 93 :: behind)) =
      watched (watch.items frames before (others.map Prod.snd))
        ((Place.after (.list (before.reverse ++ others.map Prod.snd)) frames).read watch
          (tokensFrom 0 behind)) := by
  induction others generalizing before with
  | nil =>
    have closed : (Place.afterItem before frames).step watch .closeList =
        .ok (.after (.list before.reverse) frames) := rfl
    show (Place.afterItem before frames).read watch (.closeList :: tokensFrom 0 behind) = _
    rw [Place.read_step closed nofun, List.map_nil, List.append_nil]
    rfl
  | cons item others ih =>
    obtain ⟨first, reads⟩ := List.forall_mem_cons.mp reads
    have closes := closes_row (others.map Prod.fst) 93 (by decide) behind
    rw [List.map_cons, List.flatMap_cons, List.append_assoc, List.cons_append, List.map_cons]
    have separated : (Place.afterItem before frames).step watch .comma =
        .ok (.nextItem before frames) := rfl
    show (Place.afterItem before frames).read watch (.comma :: tokensFrom 0 _) = _
    rw [Place.read_step separated nofun,
      first (by rw [List.length_cons, deep]) (.nextItem before frames) closes,
      Watch.inside_of_inner (List.cons_ne_nil _ _), Place.after, watched, ih reads,
      watched_watched, List.reverse_cons, List.append_assoc]
    rfl

/-- The inside of a list is read up to its end. -/
theorem read_list (deep : frames.length = depth) {items : List (List UInt8 × Value)}
    {inside : List UInt8} (row : Row (items.map Prod.fst) inside)
    (reads : ∀ item ∈ items, ReadsAs watch (depth + 1) item.1 item.2) (behind : List UInt8) :
    (Place.firstItem frames).read watch (tokensFrom 0 (inside ++ 93 :: behind)) =
      watched (watch.items frames [] (items.map Prod.snd))
        ((Place.after (.list (items.map Prod.snd)) frames).read watch (tokensFrom 0 behind)) := by
  cases items with
  | nil =>
    cases row with
    | empty blank =>
      rw [blank.tokensFrom_append]
      have closed : (Place.firstItem frames).step watch .closeList =
          .ok (.after (.list []) frames) := rfl
      show (Place.firstItem frames).read watch (.closeList :: tokensFrom 0 behind) = _
      rw [Place.read_step closed nofun]
      rfl
  | cons item others =>
    obtain ⟨first, reads⟩ := List.forall_mem_cons.mp reads
    have closes := closes_row (others.map Prod.fst) 93 (by decide) behind
    cases row with
    | filled _ _ =>
      rw [List.append_assoc, first (by rw [List.length_cons, deep]) (.firstItem frames) closes,
        Watch.inside_of_inner (List.cons_ne_nil _ _), Place.after, watched, read_items deep reads,
        watched_watched]
      rfl

/-- At the place a key comes next, behind the given members. -/
inductive Place.AwaitsKey : Place → List (String × Value) → List Frame → Prop where
  | firstKey (frames : List Frame) : AwaitsKey (.firstKey frames) [] frames
  | nextKey (members : List (String × Value)) (frames : List Frame) :
      AwaitsKey (.nextKey members frames) members frames

theorem Place.AwaitsKey.step_eq {place : Place} {members : List (String × Value)}
    (awaits : place.AwaitsKey members frames) {token : Token} (opens : token ≠ .closeObject) :
    place.step watch token = startKey watch members frames token := by
  cases awaits <;> cases token <;> first | rfl | exact absurd rfl opens

theorem Place.AwaitsKey.unfinished {place : Place} {members : List (String × Value)}
    (awaits : place.AwaitsKey members frames) (whole : Value) : place ≠ .done whole := by
  cases awaits <;> nofun

theorem read_member (deep : frames.length = depth) {place : Place}
    {before : List (String × Value)} (awaits : place.AwaitsKey before frames) {member : Member}
    (keyed : member.Keyed) (reads : ReadsAs watch (depth + 1) member.text member.value)
    {behind : List UInt8} (closes : Closes behind) :
    place.read watch (tokensFrom 0 (member.written ++ behind)) =
      watched (watch.keyed frames before member.key)
        (watched (watch.start member.value.found (.object before member.key :: frames))
          ((Place.afterMember (member.pair :: before) frames).read watch
            (tokensFrom 0 behind))) := by
  have colon : Closes (58 :: (member.text ++ behind)) := by
    rintro _ ⟨⟩
    decide
  have spelled : tokensFrom 0 (member.written ++ behind) =
      .string (.ok member.key) :: .colon :: tokensFrom 0 (member.text ++ behind) := by
    rw [Member.written, List.append_assoc, List.append_assoc, List.append_assoc,
      keyed.before.tokensFrom_append, List.cons_append,
      keyed.lexeme.tokensFrom_append (keyed.behind.closes_append colon),
      keyed.behind.tokensFrom_append]
    rfl
  have entered : place.step watch (.string (.ok member.key)) = startKey watch before frames _ :=
    awaits.step_eq (by simp)
  have separated : (Place.afterKey before member.key frames).step watch .colon =
      .ok (.value (.object before member.key :: frames)) := rfl
  rw [spelled, Place.read_cons awaits.unfinished, entered, startKey, watched_bind]
  congr 1
  rw [Except.bind, Place.read_step separated (by simp),
    reads (by rw [List.length_cons, deep]) (.value _) closes,
    Watch.inside_of_inner (List.cons_ne_nil _ _)]
  rfl

/-- The further members of an object are read up to its end. -/
theorem read_members (deep : frames.length = depth) {others : List Member}
    (keyed : ∀ member ∈ others, member.Keyed)
    (reads : ∀ member ∈ others, ReadsAs watch (depth + 1) member.text member.value)
    (before : List (String × Value)) (behind : List UInt8) :
    (Place.afterMember before frames).read watch
        (tokensFrom 0 ((others.map Member.written).flatMap (44 :: ·) ++ 125 :: behind)) =
      watched (watch.members frames before (others.map Member.pair))
        ((Place.after (.object (before.reverse ++ others.map Member.pair)) frames).read watch
          (tokensFrom 0 behind)) := by
  induction others generalizing before with
  | nil =>
    have closed : (Place.afterMember before frames).step watch .closeObject =
        .ok (.after (.object before.reverse) frames) := rfl
    show (Place.afterMember before frames).read watch (.closeObject :: tokensFrom 0 behind) = _
    rw [Place.read_step closed nofun, List.map_nil, List.append_nil]
    rfl
  | cons member others ih =>
    obtain ⟨key, keyed⟩ := List.forall_mem_cons.mp keyed
    obtain ⟨first, reads⟩ := List.forall_mem_cons.mp reads
    have closes := closes_row (others.map Member.written) 125 (by decide) behind
    have separated : (Place.afterMember before frames).step watch .comma =
        .ok (.nextKey before frames) := rfl
    rw [List.map_cons, List.flatMap_cons, List.append_assoc, List.cons_append, List.map_cons]
    show (Place.afterMember before frames).read watch (.comma :: tokensFrom 0 _) = _
    rw [Place.read_step separated nofun, read_member deep (.nextKey before frames) key first closes,
      ih keyed reads, List.reverse_cons, List.append_assoc]
    exact watched_members frames before member.pair (others.map Member.pair) _

/-- The inside of an object is read up to its end. -/
theorem read_object (deep : frames.length = depth) {members : List Member}
    {inside : List UInt8} (row : Row (members.map Member.written) inside)
    (keyed : ∀ member ∈ members, member.Keyed)
    (reads : ∀ member ∈ members, ReadsAs watch (depth + 1) member.text member.value)
    (behind : List UInt8) :
    (Place.firstKey frames).read watch (tokensFrom 0 (inside ++ 125 :: behind)) =
      watched (watch.members frames [] (members.map Member.pair))
        ((Place.after (.object (members.map Member.pair)) frames).read watch
          (tokensFrom 0 behind)) := by
  cases members with
  | nil =>
    cases row with
    | empty blank =>
      have closed : (Place.firstKey frames).step watch .closeObject =
          .ok (.after (.object []) frames) := rfl
      rw [blank.tokensFrom_append]
      show (Place.firstKey frames).read watch (.closeObject :: tokensFrom 0 behind) = _
      rw [Place.read_step closed nofun]
      rfl
  | cons member others =>
    obtain ⟨key, keyed⟩ := List.forall_mem_cons.mp keyed
    obtain ⟨first, reads⟩ := List.forall_mem_cons.mp reads
    have closes := closes_row (others.map Member.written) 125 (by decide) behind
    cases row with
    | filled _ _ =>
      rw [List.append_assoc, read_member deep (.firstKey frames) key first closes,
        read_members deep keyed reads]
      exact watched_members frames [] member.pair (others.map Member.pair) _

/-- **A text that denotes a value is read as the value.** -/
theorem Denotes.readsAs {text : List UInt8} {value : Value} (denotes : Denotes depth text value) :
    ReadsAs watch depth text value := by
  induction denotes with
  | @string _ _ content lexeme =>
    intro frames place behind deep awaits closes
    have taken := awaits.step_eq watch (.string (.ok content)) (by simp)
    rw [lexeme.tokensFrom_append closes, Place.read_cons awaits.unfinished, taken, startValue,
      watched_bind]
    rfl
  | @atom _ _ atom lexeme =>
    intro frames place behind deep awaits closes
    have taken := awaits.step_eq watch (.atom (.ok atom)) (by simp)
    rw [lexeme.tokensFrom_append closes, Place.read_cons awaits.unfinished, taken, startValue,
      watched_bind]
    cases atom <;> rfl
  | list room row each reads =>
    intro frames place behind deep awaits closes
    rw [List.cons_append, List.append_assoc]
    have opened := awaits.step_eq watch .openList (by simp)
    show place.read watch (.openList :: tokensFrom 0 _) = _
    rw [Place.read_cons awaits.unfinished, opened, startValue, watched_bind, deep,
      if_neg (Nat.not_le.mpr room), Except.bind]
    congr 1
    exact read_list deep row reads behind
  | object room row keyed each reads =>
    intro frames place behind deep awaits closes
    rw [List.cons_append, List.append_assoc]
    have opened := awaits.step_eq watch .openObject (by simp)
    show place.read watch (.openObject :: tokensFrom 0 _) = _
    rw [Place.read_cons awaits.unfinished, opened, startValue, watched_bind, deep,
      if_neg (Nat.not_le.mpr room), Except.bind]
    congr 1
    exact read_object deep row keyed reads behind
  | padded blank inner blank' reads =>
    intro frames place behind deep awaits closes
    rw [List.append_assoc, List.append_assoc, blank.tokensFrom_append,
      reads deep awaits (blank'.closes_append closes), blank'.tokensFrom_append]

end Completeness

/-- A text that denotes a value is read as the value, unless the watch stops the reader. -/
theorem Denotes.readValue {watch : Watch} {text : List UInt8} {value : Value}
    (denotes : Denotes 0 text value) :
    readValue watch (tokens text) =
      watched (watch.root value.found) (watched (watch.inside [] value) (.ok (value, []))) := by
  have reads : Place.read watch _ _ = _ := denotes.readsAs rfl (.value []) closes_nil
  rw [List.append_nil] at reads
  exact reads

end LiveSpeech.Json
