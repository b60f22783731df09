import LiveSpeech.Message
import LiveSpeech.Proofs.Derivation

/-!
# Messages and their members

A member counts if it is the only one of its name (`Once`), wherever it stands and whatever the
others are (`Once.of_perm`).  It is missing, repeated or unfit otherwise (`not_faulty_iff`).

An object is read as a message by its one tag and its other members (`decode_object`).  The watch
over the outermost container settles the tag on the way (`members_eq_ok_iff`), and the fields are
filled behind it: each from the one member of its name (`NamedField.Holds`), with what it takes its
value for (`Takes`).
-/

namespace LiveSpeech.Json

set_option autoImplicit false

/-! ## Members by their names -/

variable {members : List (String × Value)} {name : String}

/-- One member has this name, and this is its value. -/
def Once (members : List (String × Value)) (name : String) (value : Value) : Prop :=
  members.filter (·.1 = name) = [(name, value)]

/-- A member is missing, is there twice, or does not hold what it has to. -/
inductive Faulty (members : List (String × Value)) (name : String) (fits : Value → Prop) :
    Prop where
  | missing (none : ∀ member ∈ members, member.1 ≠ name)
  | repeated {before between behind : List (String × Value)} {first second : Value}
      (parts : members = before ++ (name, first) :: (between ++ (name, second) :: behind))
  | unfit {value : Value} (there : (name, value) ∈ members) (wrong : ¬fits value)

theorem Once.mem_iff {value : Value} (once : Once members name value) {other : Value} :
    (name, other) ∈ members ↔ other = value := by
  have found : (name, other) ∈ members.filter (·.1 = name) ↔ (name, other) ∈ members := by
    rw [List.mem_filter, and_iff_left (decide_eq_true rfl)]
  rw [← found, once, List.mem_singleton, Prod.mk.injEq, and_iff_right rfl]

/-- Neither the order of the members counts nor which members of other names there are. -/
theorem Once.of_perm {value : Value} (once : Once members name value)
    {others shuffled : List (String × Value)} (perm : shuffled.Perm (members ++ others))
    (strange : ∀ member ∈ others, member.1 ≠ name) : Once shuffled name value := by
  have none : others.filter (·.1 = name) = [] :=
    List.filter_eq_nil_iff.mpr fun member among => by simpa using strange member among
  have same := perm.filter (·.1 = name)
  rw [List.filter_append, once, none, List.append_nil] at same
  exact List.perm_singleton.mp same

theorem once_filter {key : String} (differs : name ≠ key) {value : Value} :
    Once (members.filter (·.1 ≠ key)) name value ↔ Once members name value := by
  have same : (members.filter (·.1 ≠ key)).filter (·.1 = name) = members.filter (·.1 = name) := by
    rw [List.filter_filter]
    refine List.filter_congr fun member _ => ?_
    by_cases here : member.1 = name
    · simp [here, differs]
    · simp [here]
  rw [Once, Once, same]

/-- A member is there once and holds what it has to, or it is at fault. -/
theorem not_faulty_iff {fits : Value → Prop} :
    ¬Faulty members name fits ↔ ∃ value, Once members name value ∧ fits value := by
  constructor
  · intro sound
    cases found : members.filter (·.1 = name) with
    | nil =>
      refine (sound (.missing fun member among same => ?_)).elim
      have inside : member ∈ members.filter (·.1 = name) :=
        List.mem_filter.mpr ⟨among, decide_eq_true same⟩
      rw [found] at inside
      cases inside
    | cons first others =>
      obtain ⟨before, rest, rfl, _, same, others_eq⟩ := List.filter_eq_cons_iff.mp found
      obtain ⟨key, value⟩ := first
      obtain rfl : key = name := of_decide_eq_true same
      cases others with
      | nil => exact ⟨value, found, by_contra fun unfit => sound (.unfit (by simp) unfit)⟩
      | cons second others =>
        obtain ⟨between, behind, rfl, _, same', _⟩ := List.filter_eq_cons_iff.mp others_eq
        obtain ⟨key', value'⟩ := second
        obtain rfl : key' = key := of_decide_eq_true same'
        exact (sound (.repeated rfl)).elim
  · rintro ⟨value, once, fit⟩ faulty
    cases faulty with
    | missing none =>
      exact none _ (once.mem_iff.mpr rfl) rfl
    | @repeated before between behind first second parts =>
      have two := congrArg List.length once
      simp only [parts, List.filter_append, List.filter_cons, decide_true, if_true,
        List.length_append, List.length_cons, List.length_nil] at two
      omega
    | unfit there wrong =>
      rw [once.mem_iff.mp there] at wrong
      exact wrong fit

theorem filter_cons_same (name : String) (value : Value) (others : List (String × Value)) :
    ((name, value) :: others).filter (·.1 = name) =
      (name, value) :: others.filter (·.1 = name) :=
  List.filter_cons_of_pos (decide_eq_true rfl)

theorem filter_cons_other {key : String} (differs : key ≠ name) (value : Value)
    (others : List (String × Value)) :
    ((key, value) :: others).filter (·.1 = name) = others.filter (·.1 = name) :=
  List.filter_cons_of_neg (by simpa using differs)

/-! ## The tag -/

section Tag

variable {family : Family}

theorem keyed_family (before : List (String × Value)) (key : String) :
    family.watch.keyed [] before key =
      if key = tagKey ∧ before.any (·.1 = tagKey) then .error (.duplicate tagKey) else .ok () :=
  rfl

theorem start_family (found : Found) (before : List (String × Value)) (key : String) :
    family.watch.start found [.object before key] =
      if key = tagKey then family.checkTag found else .ok () :=
  rfl

theorem checkTag_eq_ok_iff {value : Value} :
    family.checkTag value.found = .ok () ↔ ∃ tag ∈ family.tags, value = .string tag := by
  cases value with
  | string content =>
    simp only [Value.found, Family.checkTag, Value.string.injEq]
    by_cases known : content ∈ family.tags
    · rw [if_pos known]
      exact iff_of_true rfl ⟨content, known, rfl⟩
    · rw [if_neg known]
      refine iff_of_false nofun ?_
      rintro ⟨_, known', rfl⟩
      exact known known'
  | _ => exact iff_of_false nofun nofun

/-- Behind a tag the watch lets no other tag pass. -/
theorem members_eq_ok_of_tagged (family : Family) {before : List (String × Value)}
    (tagged : before.any (·.1 = tagKey) = true) :
    family.watch.members [] before members = .ok () ↔ members.filter (·.1 = tagKey) = [] := by
  induction members generalizing before with
  | nil => exact iff_of_true rfl rfl
  | cons member others ih =>
    obtain ⟨key, value⟩ := member
    rw [Watch.members, keyed_family, start_family]
    by_cases tag : key = tagKey
    · subst tag
      rw [if_pos ⟨rfl, tagged⟩, filter_cons_same]
      exact iff_of_false (by rintro ⟨⟩) (List.cons_ne_nil _ _)
    · rw [if_neg fun both => tag both.1, if_neg tag, filter_cons_other tag]
      exact ih (by rw [List.any_cons, tagged, Bool.or_true])

/-- The watch lets the members of an object pass that has no tag, or one that is known. -/
theorem members_eq_ok_iff {before : List (String × Value)}
    (untagged : before.any (·.1 = tagKey) = false) :
    family.watch.members [] before members = .ok () ↔
      members.filter (·.1 = tagKey) = [] ∨
        ∃ tag ∈ family.tags, Once members tagKey (.string tag) := by
  induction members generalizing before with
  | nil => exact iff_of_true rfl (.inl rfl)
  | cons member others ih =>
    obtain ⟨key, value⟩ := member
    rw [Watch.members, keyed_family, start_family,
      if_neg fun both => Bool.false_ne_true (untagged.symm.trans both.2)]
    by_cases tag : key = tagKey
    · subst tag
      have behind : ((tagKey, value) :: before).any (·.1 = tagKey) = true := by
        rw [List.any_cons, decide_eq_true rfl, Bool.true_or]
      rw [if_pos rfl]
      simp only [Once, filter_cons_same, List.cons.injEq, Prod.mk.injEq, true_and,
        reduceCtorEq, false_or]
      rw [← members_eq_ok_of_tagged family behind]
      cases known : family.checkTag value.found with
      | error mismatch =>
        refine iff_of_false (by rintro ⟨⟩) ?_
        rintro ⟨tag, among, rfl, _⟩
        cases known.symm.trans (checkTag_eq_ok_iff.mpr ⟨tag, among, rfl⟩)
      | ok _ =>
        obtain ⟨tag, among, rfl⟩ := checkTag_eq_ok_iff.mp known
        constructor
        · exact fun passed => ⟨tag, among, rfl, passed⟩
        · rintro ⟨_, _, _, passed⟩
          exact passed
    · rw [if_neg tag]
      simp only [Once, filter_cons_other tag]
      exact ih (by rw [List.any_cons, untagged, Bool.or_false]; simpa using tag)

/-- The one tag of an object is split off. -/
theorem splitTag_eq_ok_iff {tag : String} {fields : Fields}
    (passed : members.filter (·.1 = tagKey) = [] ∨
      ∃ tag ∈ family.tags, Once members tagKey (.string tag)) :
    splitTag (.object members) = .ok (tag, fields) ↔
      Once members tagKey (.string tag) ∧ fields = .named (members.filter (·.1 ≠ tagKey)) := by
  have first := List.head?_filter (p := fun member => decide (member.1 = tagKey)) (l := members)
  rw [splitTag, ← first]
  rcases passed with none | ⟨known, _, once⟩
  · rw [Once, none]
    exact iff_of_false (by rintro ⟨⟩) fun both => List.cons_ne_nil _ _ both.1.symm
  · rw [Once, once]
    simp only [List.head?_cons, Except.ok.injEq, Prod.mk.injEq, List.cons.injEq, Value.string.injEq,
      true_and, and_true, eq_comm]

variable {α : Type} {ofFields : String → Fields → Except Mismatch α} {text : List UInt8}

theorem eq_ok_of_mapError {Mistake Other : Type} {wrap : Mistake → Other}
    {result : Except Mistake α} {first : α} (read : result.mapError wrap = .ok first) :
    result = .ok first := by
  cases result with
  | error mistake => cases read
  | ok other => exact congrArg _ (Except.ok.inj read)

/-- A text is read by what the watch says to its value, and then by its tag and its fields. -/
theorem decode_eq {value : Value} (denotes : Denotes 0 text value) :
    family.decode ofFields text =
      watched (family.watch.root value.found) (watched (family.watch.inside [] value)
        ((splitTag value >>= fun split => ofFields split.1 split.2).mapError .mismatch)) := by
  rw [Family.decode, denotes.readValue]
  refine (watched_bind _ _ _).trans (congrArg _ ((watched_bind _ _ _).trans (congrArg _ ?_)))
  dsimp only [Except.bind]
  cases splitTag value with
  | error mismatch => rfl
  | ok split =>
    show _ = (ofFields split.1 split.2).mapError _
    dsimp only [bind, Except.bind]
    cases ofFields split.1 split.2 <;> rfl

/-- A text is read as a message if the watch lets its value pass and its fields make one. -/
theorem decode_eq_ok_iff {value : Value} (denotes : Denotes 0 text value) {message : α} :
    family.decode ofFields text = .ok message ↔
      family.watch.root value.found = .ok () ∧ family.watch.inside [] value = .ok () ∧
        ∃ tag fields, splitTag value = .ok (tag, fields) ∧ ofFields tag fields = .ok message := by
  rw [decode_eq denotes]
  constructor
  · intro read
    obtain ⟨root, read⟩ := eq_ok_of_watched read
    obtain ⟨inside, read⟩ := eq_ok_of_watched read
    obtain ⟨split, taken, said⟩ := eq_ok_of_bind (eq_ok_of_mapError read)
    exact ⟨root, inside, split.1, split.2, taken, said⟩
  · rintro ⟨root, inside, tag, fields, split, said⟩
    rw [root, inside, split]
    show watched _ (watched _ ((ofFields tag fields).mapError _)) = _
    rw [said]
    rfl

/-- Nothing but an object or a list is read as a message. -/
theorem denotes_of_decode {message : α} (read : family.decode ofFields text = .ok message) :
    (∃ members, Denotes 0 text (.object members)) ∨ ∃ items, Denotes 0 text (.list items) := by
  obtain ⟨value, whole⟩ := readValue_of_decode read
  have denotes := denotes_of_readValue whole
  obtain ⟨root, -⟩ := (decode_eq_ok_iff denotes).mp read
  cases value with
  | object members => exact .inl ⟨members, denotes⟩
  | list items => exact .inr ⟨items, denotes⟩
  | _ => cases root

/-- **An object is read as a message by its one tag and its other members.** -/
theorem decode_object (denotes : Denotes 0 text (.object members)) {message : α} :
    family.decode ofFields text = .ok message ↔
      ∃ tag ∈ family.tags, Once members tagKey (.string tag) ∧
        ofFields tag (.named (members.filter (·.1 ≠ tagKey))) = .ok message := by
  have passes : family.watch.inside [] (.object members) = .ok () ↔ _ := members_eq_ok_iff rfl
  rw [decode_eq_ok_iff denotes, passes]
  constructor
  · rintro ⟨-, passed, tag, fields, split, said⟩
    obtain ⟨once, rfl⟩ := (splitTag_eq_ok_iff passed).mp split
    rcases passed with none | ⟨known, among, once'⟩
    · cases none.symm.trans once
    · cases Value.string.inj (once.mem_iff.mp (once'.mem_iff.mpr rfl))
      exact ⟨_, among, once, said⟩
  · rintro ⟨tag, among, once, said⟩
    have passed : members.filter (·.1 = tagKey) = [] ∨
        ∃ tag ∈ family.tags, Once members tagKey (.string tag) := .inr ⟨tag, among, once⟩
    exact ⟨rfl, passed, tag, _, (splitTag_eq_ok_iff passed).mpr ⟨once, rfl⟩, said⟩

end Tag

/-! ## The fields -/

section Fields

variable {α β : Type} {field : NamedField α}

/-- What a field holds behind these members if it held this before them. -/
def NamedField.gather (field : NamedField α) (members : List (String × Value))
    (taken : Option α) : Except Mismatch (Option α) :=
  members.foldlM (fun taken (member : String × Value) =>
    if member.1 = field.name then field.once taken member.2 else pure taken) taken

/-- The one member with the name of the field holds this. -/
def NamedField.Holds (field : NamedField α) (members : List (String × Value)) (value : α) : Prop :=
  ∃ source, Once members field.name source ∧ field.take source = .ok value

theorem NamedField.gather_cons_same (source : Value) (others : List (String × Value))
    (taken : Option α) :
    field.gather ((field.name, source) :: others) taken =
      field.once taken source >>= field.gather others := by
  rw [gather, List.foldlM_cons, if_pos rfl]
  rfl

theorem NamedField.gather_cons_other {key : String} (differs : key ≠ field.name) (source : Value)
    (others : List (String × Value)) (taken : Option α) :
    field.gather ((key, source) :: others) taken = field.gather others taken := by
  rw [gather, List.foldlM_cons, if_neg differs]
  rfl

theorem NamedField.gather_some (value : α) {taken : Option α} :
    field.gather members (some value) = .ok taken ↔
      members.filter (·.1 = field.name) = [] ∧ taken = some value := by
  induction members with
  | nil => exact ⟨fun same => ⟨rfl, (Except.ok.inj same).symm⟩, fun both => congrArg _ both.2.symm⟩
  | cons member others ih =>
    obtain ⟨key, source⟩ := member
    by_cases same : key = field.name
    · subst same
      rw [gather_cons_same, filter_cons_same]
      exact iff_of_false nofun fun both => List.cons_ne_nil _ _ both.1
    · rw [gather_cons_other same, filter_cons_other same]
      exact ih

theorem NamedField.gather_none {taken : Option α} :
    field.gather members none = .ok taken ↔
      members.filter (·.1 = field.name) = [] ∧ taken = none ∨
        ∃ value, field.Holds members value ∧ taken = some value := by
  induction members with
  | nil =>
    constructor
    · rintro ⟨⟩
      exact .inl ⟨rfl, rfl⟩
    · rintro (⟨_, rfl⟩ | ⟨_, ⟨_, none, _⟩, _⟩)
      · rfl
      · cases none
  | cons member others ih =>
    obtain ⟨key, source⟩ := member
    by_cases same : key = field.name
    · subst same
      rw [gather_cons_same]
      simp only [Holds, Once, filter_cons_same, List.cons.injEq, Prod.mk.injEq, true_and,
        reduceCtorEq, false_and, false_or]
      cases takes : field.take source with
      | error mismatch =>
        simp only [once, takes]
        refine iff_of_false nofun ?_
        rintro ⟨_, ⟨_, ⟨rfl, _⟩, takes'⟩, _⟩
        cases takes.symm.trans takes'
      | ok value =>
        simp only [once, takes]
        refine (gather_some value).trans ?_
        constructor
        · rintro ⟨none, rfl⟩
          exact ⟨value, ⟨source, ⟨rfl, none⟩, takes⟩, rfl⟩
        · rintro ⟨_, ⟨_, ⟨rfl, none⟩, takes'⟩, rfl⟩
          cases takes.symm.trans takes'
          exact ⟨none, rfl⟩
    · rw [gather_cons_other same]
      simp only [Holds, Once, filter_cons_other same]
      exact ih

theorem NamedField.holds_iff {value : α} :
    field.Holds members value ↔
      ∃ taken, field.gather members none = .ok taken ∧ field.held taken = .ok value := by
  constructor
  · intro holds
    exact ⟨some value, gather_none.mpr (.inr ⟨value, holds, rfl⟩), rfl⟩
  · rintro ⟨taken, gathered, held⟩
    rcases gather_none.mp gathered with ⟨_, rfl⟩ | ⟨value', holds, rfl⟩
    · cases held
    · cases held
      exact holds

theorem Fields.single_eq_ok_iff (variant : String) {value : α} :
    (Fields.named members).single variant field = .ok value ↔ field.Holds members value := by
  rw [NamedField.holds_iff]
  constructor
  · exact eq_ok_of_bind
  · rintro ⟨taken, gathered, held⟩
    show field.gather members none >>= field.held = _
    rw [gathered]
    exact held

/-- Two fields are filled side by side. -/
theorem gather_pair {left : NamedField α} {right : NamedField β}
    (differ : left.name ≠ right.name) (taken found : Option α × Option β) :
    members.foldlM (fun (taken : Option α × Option β) (member : String × Value) =>
        if member.1 = left.name then
          (left.once taken.1 member.2).map fun found => (found, taken.2)
        else if member.1 = right.name then
          (right.once taken.2 member.2).map fun found => (taken.1, found)
        else pure taken) taken = .ok found ↔
      left.gather members taken.1 = .ok found.1 ∧ right.gather members taken.2 = .ok found.2 := by
  induction members generalizing taken with
  | nil =>
    simp only [NamedField.gather, List.foldlM_nil, pure, Except.pure, Except.ok.injEq,
      Prod.ext_iff]
  | cons member others ih =>
    obtain ⟨key, source⟩ := member
    rw [List.foldlM_cons]
    by_cases first : key = left.name
    · subst first
      rw [if_pos rfl, left.gather_cons_same, right.gather_cons_other differ]
      cases left.once taken.1 source with
      | error mismatch => exact iff_of_false nofun nofun
      | ok filled => exact ih (filled, taken.2)
    · rw [if_neg first, left.gather_cons_other first]
      by_cases second : key = right.name
      · subst second
        rw [if_pos rfl, right.gather_cons_same]
        cases right.once taken.2 source with
        | error mismatch => exact iff_of_false nofun fun both => nomatch both.2
        | ok filled => exact ih (taken.1, filled)
      · rw [if_neg second, right.gather_cons_other second]
        exact ih taken

theorem Fields.pair_eq_ok_iff (variant : String) {left : NamedField α} {right : NamedField β}
    (differ : left.name ≠ right.name) {first : α} {second : β} :
    (Fields.named members).pair variant left right = .ok (first, second) ↔
      left.Holds members first ∧ right.Holds members second := by
  rw [NamedField.holds_iff, NamedField.holds_iff]
  constructor
  · intro read
    obtain ⟨taken, gathered, rest⟩ := eq_ok_of_bind read
    obtain ⟨gathered, gathered'⟩ := (gather_pair differ (none, none) taken).mp gathered
    obtain ⟨value, held, rest⟩ := eq_ok_of_bind rest
    obtain ⟨value', held', same⟩ := eq_ok_of_bind rest
    cases same
    exact ⟨⟨taken.1, gathered, held⟩, taken.2, gathered', held'⟩
  · rintro ⟨⟨taken, gathered, held⟩, taken', gathered', held'⟩
    have filled := (gather_pair differ (none, none) (taken, taken')).mpr ⟨gathered, gathered'⟩
    rw [Fields.pair, filled]
    show (do
      let first ← left.held taken
      let second ← right.held taken'
      return (first, second)) = _
    rw [held, held']
    rfl

/-! ## What a field takes -/

/-- What is taken are the wrapped sources, each for what it stands for. -/
def Takes {γ : Type} (take : Value → Except Mismatch α) (wrap : γ → Value) (out : γ → α) : Prop :=
  ∀ value taken, take value = .ok taken ↔ ∃ source, value = wrap source ∧ out source = taken

theorem takes_string : Takes takeString .string id := by
  intro value taken
  cases value with
  | string content =>
    simp only [takeString, Except.ok.injEq, Value.string.injEq, id_eq, exists_eq_left']
  | _ => exact iff_of_false nofun nofun

theorem takes_single : Takes takeSingle .number Numeral.single := by
  intro value taken
  cases value with
  | number numeral =>
    simp only [takeSingle, Except.ok.injEq, Value.number.injEq, exists_eq_left']
  | _ => exact iff_of_false nofun nofun

theorem Takes.list {γ : Type} {take : Value → Except Mismatch α} {wrap : γ → Value} {out : γ → α}
    (takes : Takes take wrap out) :
    Takes (takeList take) (fun sources => .list (sources.map wrap)) (List.map out) := by
  intro value taken
  cases value with
  | list items =>
    simp only [takeList, Value.list.injEq]
    induction items generalizing taken with
    | nil =>
      constructor
      · rintro ⟨⟩
        exact ⟨[], rfl, rfl⟩
      · rintro ⟨sources, none, rfl⟩
        rw [List.map_eq_nil_iff.mp none.symm]
        rfl
    | cons item items ih =>
      rw [List.mapM_cons]
      constructor
      · intro read
        obtain ⟨first, one, read⟩ := eq_ok_of_bind read
        obtain ⟨others, rest, same⟩ := eq_ok_of_bind read
        cases same
        obtain ⟨source, rfl, rfl⟩ := (takes _ _).mp one
        obtain ⟨sources, rfl, rfl⟩ := (ih _).mp rest
        exact ⟨source :: sources, rfl, rfl⟩
      · rintro ⟨sources, parts, rfl⟩
        obtain ⟨source, sources, rfl, rfl, rfl⟩ := List.map_eq_cons_iff.mp parts.symm
        rw [(takes _ _).mpr ⟨source, rfl, rfl⟩, (ih _).mpr ⟨sources, rfl, rfl⟩]
        rfl
  | _ => exact iff_of_false nofun nofun

theorem Takes.holds_iff {γ : Type} {wrap : γ → Value} {out : γ → α}
    (takes : Takes field.take wrap out) {value : α} :
    field.Holds members value ↔
      ∃ source, Once members field.name (wrap source) ∧ out source = value := by
  constructor
  · rintro ⟨_, once, taken⟩
    obtain ⟨source, rfl, stands⟩ := (takes _ _).mp taken
    exact ⟨source, once, stands⟩
  · rintro ⟨source, once, stands⟩
    exact ⟨wrap source, once, (takes _ _).mpr ⟨source, rfl, stands⟩⟩

end Fields

end LiveSpeech.Json
