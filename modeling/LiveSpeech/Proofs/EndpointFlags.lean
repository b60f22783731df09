import LiveSpeech.Proofs.Configuration
import LiveSpeech.Proofs.Policies

/-!
# Flags about endpoints among other arguments

Arguments that open a session are accepted with flags about endpoints put in among them, as long
as these stand in front of the lone `--`, have values of theirs, and no one is given twice
(`Command.exists_read_among`).  The order in which they are given, and where each of them stands,
makes no difference.

Main result: the configuration is the same but for the policy, and the policy has for every flag
that was given the value that was given, and for every other one the standard value
(`endpoint_flags_set_their_fields`).  There is one such policy
(`EndpointPolicy.Follows.unique`).
-/

namespace LiveSpeech

set_option autoImplicit false

open LiveSpeech.Options

/-! ## Putting arguments in -/

/-- **Arguments with others put in** in front of the lone `--`, in the order in which they are
listed. -/
inductive Among : List String → List String → List String → Prop where
  /-- Nothing more is put in. -/
  | done (base : List String) : Among [] base base
  | inserted {text : String} {texts base arguments : List String}
      (others : Among texts base arguments) : Among (text :: texts) base (text :: arguments)
  | kept {text : String} {texts base arguments : List String} (more : text ≠ "--")
      (others : Among texts base arguments) : Among texts (text :: base) (text :: arguments)

theorem sessionTexts_session {text : String} (own : ¬IsEngineOption text) (rest : List String) :
    sessionTexts (text :: rest) = text :: sessionTexts rest :=
  List.filter_cons_of_pos (by simpa using own)

theorem sessionTexts_engine {text : String} (engine : IsEngineOption text) (rest : List String) :
    sessionTexts (text :: rest) = sessionTexts rest :=
  List.filter_cons_of_neg (by simpa using engine)

namespace Among

variable {texts base arguments : List String}

/-- Texts may be put in in front of all. -/
theorem front (texts base : List String) : Among texts base (texts ++ base) := by
  induction texts with
  | nil => exact .done base
  | cons text texts ih => exact .inserted ih

/-- The flags are those that were put in, and those that were there. -/
theorem flagTexts_perm (among : Among texts base arguments)
    (flags : ∀ text ∈ texts, text ≠ "--" ∧ ¬IsPositional text) :
    (flagTexts arguments).Perm (texts ++ flagTexts base) := by
  induction among with
  | done base => exact .refl _
  | inserted _ ih =>
    obtain ⟨⟨other, flag⟩, flags⟩ := List.forall_mem_cons.mp flags
    rw [flagTexts_flag other flag]
    exact (ih flags).cons _
  | @kept text texts base arguments more _ ih =>
    by_cases positional : IsPositional text
    · rw [flagTexts_positional positional, flagTexts_positional positional]
      exact ih flags
    · rw [flagTexts_flag more positional, flagTexts_flag more positional]
      exact ((ih flags).cons text).trans List.perm_middle.symm

/-- Flags that are put in leave the positional arguments as they are. -/
theorem positionalTexts_eq (among : Among texts base arguments)
    (flags : ∀ text ∈ texts, text ≠ "--" ∧ ¬IsPositional text) :
    positionalTexts arguments = positionalTexts base := by
  induction among with
  | done base => rfl
  | inserted _ ih =>
    obtain ⟨⟨other, flag⟩, flags⟩ := List.forall_mem_cons.mp flags
    rw [positionalTexts_flag other flag, ih flags]
  | @kept text texts base arguments more _ ih =>
    by_cases positional : IsPositional text
    · rw [positionalTexts_positional positional, positionalTexts_positional positional, ih flags]
    · rw [positionalTexts_flag more positional, positionalTexts_flag more positional, ih flags]

/-- Arguments of the session are put in among its other arguments. -/
theorem session (among : Among texts base arguments)
    (own : ∀ text ∈ texts, ¬IsEngineOption text) :
    Among texts (sessionTexts base) (sessionTexts arguments) := by
  induction among with
  | done base => exact .done _
  | inserted _ ih =>
    obtain ⟨first, own⟩ := List.forall_mem_cons.mp own
    rw [sessionTexts_session first]
    exact .inserted (ih own)
  | @kept text texts base arguments more _ ih =>
    by_cases engine : IsEngineOption text
    · rw [sessionTexts_engine engine, sessionTexts_engine engine]
      exact ih own
    · rw [sessionTexts_session engine, sessionTexts_session engine]
      exact .kept more (ih own)

/-- Arguments of the session that are put in leave the options of the engine as they are. -/
theorem engineTexts_eq (among : Among texts base arguments)
    (own : ∀ text ∈ texts, ¬IsEngineOption text) : engineTexts arguments = engineTexts base := by
  induction among with
  | done base => rfl
  | inserted _ ih =>
    obtain ⟨first, own⟩ := List.forall_mem_cons.mp own
    rw [engineTexts, List.filter_cons_of_neg (by simpa using first)]
    exact ih own
  | kept _ _ ih =>
    simp only [engineTexts, List.filter_cons] at ih ⊢
    rw [ih own]

end Among

/-! ## Flags that are given -/

/-- A flag about endpoints with the text behind its sign of equality, or without one. -/
abbrev GivenFlag := EndpointFlag × Option String

/-- The flag as it stands among the arguments. -/
def GivenFlag.text (given : GivenFlag) : String :=
  flagText (Flag.endpoint given.1).name given.2

/-- The value that is given, if the text is a value of the flag, or the flag may stand alone. -/
def GivenFlag.value? (given : GivenFlag) : Option FlagValue :=
  (Flag.endpoint given.1).kind.given? given.2

/-- A flag that is given is read as the name and the text that it is written with. -/
theorem GivenFlag.form (given : GivenFlag) :
    Argument.ofText given.text = .long (Flag.endpoint given.1).name given.2 := by
  obtain ⟨filled, plain⟩ := (Flag.endpoint given.1).name_plain
  refine Argument.ofText_eq_long_iff.mpr ⟨fun short => filled ?_, plain, rfl⟩
  have letters := congrArg String.toList short
  rw [text, flagText, String.toList_append, String.toList_append, List.append_assoc] at letters
  have nothing := List.append_right_eq_self.mp letters
  exact String.toList_inj.mp (List.append_eq_nil_iff.mp nothing).1

/-- It is neither the lone `--` nor a positional argument. -/
theorem GivenFlag.is_flag (given : GivenFlag) : given.text ≠ "--" ∧ ¬IsPositional given.text := by
  constructor
  · intro short
    exact nomatch given.form.symm.trans (Argument.ofText_eq_separator_iff.mpr short)
  · intro positional
    exact nomatch given.form.symm.trans (Argument.ofText_eq_positional_iff.mpr ⟨rfl, positional⟩)

/-- A flag that is given gives its own value, and to the flag of its name alone. -/
theorem GivenFlag.gives_iff {command : Command} {given : GivenFlag} {flag : Flag}
    {value : FlagValue} : command.Gives given.text flag value ↔
      .endpoint given.1 ∈ command.flags ∧ flag = .endpoint given.1 ∧ given.value? = some value := by
  rw [Command.gives_iff]
  constructor
  · rintro ⟨name, content, form, found, taken⟩
    obtain ⟨known, rfl⟩ := Command.flag?_eq_some_iff.mp found
    obtain ⟨named, rfl⟩ := Argument.long.inj (form.symm.trans given.form)
    obtain rfl := Flag.name_injective named
    exact ⟨known, rfl, taken⟩
  · rintro ⟨known, rfl, taken⟩
    exact ⟨_, _, given.form, Command.flag?_eq_some_iff.mpr ⟨known, rfl⟩, taken⟩

/-- It is none of the options of the engine. -/
theorem GivenFlag.not_isEngineOption (given : GivenFlag) : ¬IsEngineOption given.text := by
  rintro ⟨longer, name, value, plain, written, unknown⟩
  have form := Argument.ofText_eq_long_iff.mpr ⟨longer, plain, written⟩
  obtain ⟨rfl, -⟩ := Argument.long.inj (given.form.symm.trans form)
  refine unknown (.inl ?_)
  obtain ⟨flag, content⟩ := given
  cases flag <;> simp [Flag.name, EndpointFlag.name]

/-! ## The policy of the flags that are given -/

/-- **A policy follows flags**: it has for every flag that is given the value that is given, and
for every other one the standard value. -/
structure EndpointPolicy.Follows (policy : EndpointPolicy) (given : List GivenFlag) : Prop where
  held : ∀ flag ∈ given, flag.value? = some (policy.value flag.1)
  absent : ∀ flag, flag ∉ given.map Prod.fst →
    policy.value flag = EndpointPolicy.standard.value flag

section Follows

variable {policy other : EndpointPolicy} {given shuffled : List GivenFlag}

/-- Only one policy follows flags. -/
theorem EndpointPolicy.Follows.unique (follows : policy.Follows given)
    (follows' : other.Follows given) : other = policy := by
  refine EndpointPolicy.value_injective (funext fun flag => ?_)
  by_cases inside : flag ∈ given.map Prod.fst
  · obtain ⟨set, member, rfl⟩ := List.mem_map.mp inside
    exact Option.some.inj ((follows'.held set member).symm.trans (follows.held set member))
  · rw [follows.absent flag inside, follows'.absent flag inside]

/-- The order of the flags makes no difference. -/
theorem EndpointPolicy.Follows.perm (follows : policy.Follows given)
    (order : shuffled.Perm given) : policy.Follows shuffled where
  held flag inside := follows.held flag (order.mem_iff.mp inside)
  absent flag outside := follows.absent flag (mt (order.map Prod.fst).mem_iff.mpr outside)

end Follows

/-- Flags that may be given: each has a value, and none is given twice. -/
structure Givable (given : List GivenFlag) : Prop where
  valid : ∀ flag ∈ given, ∃ value, flag.value? = some value
  once : (given.map Prod.fst).Nodup

theorem Givable.perm {given shuffled : List GivenFlag} (givable : Givable given)
    (order : shuffled.Perm given) : Givable shuffled where
  valid flag inside := givable.valid flag (order.mem_iff.mp inside)
  once := (order.map Prod.fst).nodup_iff.mpr givable.once

section Reading

variable {command : Command} {base arguments : List String} {line : CommandLine}
  {given : List GivenFlag}

/-- Flags that may be given are flags for the command. -/
theorem Givable.exists_giveAll (givable : Givable given)
    (known : ∀ flag, .endpoint flag ∈ command.flags) :
    ∃ settings, command.GiveAll (given.map GivenFlag.text) settings := by
  refine Command.exists_giveAll_iff.mpr fun text inside => ?_
  obtain ⟨set, member, rfl⟩ := List.mem_map.mp inside
  obtain ⟨value, valid⟩ := givable.valid set member
  exact ⟨_, value, GivenFlag.gives_iff.mpr ⟨known set.1, rfl, valid⟩⟩

/-- No flag is given by two of them. -/
theorem Givable.giveOnce (givable : Givable given) :
    command.GiveOnce (given.map GivenFlag.text) := by
  refine List.pairwise_map.mpr ((List.pairwise_map.mp givable.once).imp ?_)
  intro one other differ flag value value' gives again
  obtain ⟨-, rfl, -⟩ := GivenFlag.gives_iff.mp gives
  obtain ⟨-, same, -⟩ := GivenFlag.gives_iff.mp again
  exact differ (Flag.endpoint.inj same)

/-- What is read of such flags is the value of each of them. -/
theorem GivenFlag.mem_giveAll_iff (known : ∀ flag, .endpoint flag ∈ command.flags)
    {settings : Settings} (set : command.GiveAll (given.map GivenFlag.text) settings)
    {flag : Flag} {value : FlagValue} : (flag, value) ∈ settings ↔
      ∃ own ∈ given, flag = .endpoint own.1 ∧ own.value? = some value := by
  simp only [set.mem_iff, List.mem_map, exists_exists_and_eq_and, GivenFlag.gives_iff, known,
    true_and]

/-- **Flags about endpoints that are put in are read**, and everything else is read as before. -/
theorem Options.Command.exists_read_among (known : ∀ flag, .endpoint flag ∈ command.flags)
    (read : command.read base = .ok line)
    (fresh : ∀ flag value, ¬command.Sets base (.endpoint flag) value) (givable : Givable given)
    (among : Among (given.map GivenFlag.text) base arguments) :
    ∃ settings : Settings, command.read arguments = .ok ⟨settings, line.positionals⟩ ∧
      ∀ flag value, settings.find? flag = some value ↔
        (∃ own ∈ given, flag = .endpoint own.1 ∧ own.value? = some value) ∨
          line.settings.find? flag = some value := by
  have flags : ∀ text ∈ given.map GivenFlag.text, text ≠ "--" ∧ ¬IsPositional text := by
    intro text inside
    obtain ⟨own, -, rfl⟩ := List.mem_map.mp inside
    exact own.is_flag
  obtain ⟨more, moreGiven⟩ := givable.exists_giveAll known
  obtain ⟨lineGiven, positionals, complete⟩ := read_eq_ok_iff.mp read
  -- What is read of the flags that were put in and of the others, in this order.
  obtain ⟨settings, settingsGiven, alike⟩ :=
    List.perm_comp_forall₂ (among.flagTexts_perm flags) (List.rel_append moreGiven lineGiven)
  have names : (settings.map (·.1)).Perm (more.map (·.1) ++ line.given) := by
    simpa [CommandLine.given] using alike.map Prod.fst
  have apart : (more.map (·.1)).Disjoint line.given := by
    intro flag inside again
    obtain ⟨⟨_, value⟩, found, rfl⟩ := List.mem_map.mp inside
    obtain ⟨⟨flag, value'⟩, before, rfl⟩ := List.mem_map.mp again
    obtain ⟨own, -, endpoint, -⟩ := (GivenFlag.mem_giveAll_iff known moreGiven).mp found
    refine fresh own.1 value' ((find?_eq_some_iff read).mp ?_)
    rw [Settings.find?_eq_some_iff complete.once, ← endpoint]
    exact before
  have whole : command.Complete ⟨settings, line.positionals⟩ := {
    once := names.nodup_iff.mpr (List.Nodup.append (moreGiven.nodup_iff.mpr givable.giveOnce)
      complete.once apart)
    count := complete.count
    filled := complete.filled
    required := fun flag needed =>
      names.mem_iff.mpr (List.mem_append_right _ (complete.required flag needed)) }
  refine ⟨settings, read_eq_ok_iff.mpr ⟨settingsGiven, ?_, whole⟩, fun flag value => ?_⟩
  · rw [among.positionalTexts_eq flags]
    exact positionals
  · rw [Settings.find?_eq_some_iff whole.once, alike.mem_iff, List.mem_append,
      GivenFlag.mem_giveAll_iff known moreGiven, Settings.find?_eq_some_iff complete.once]

/-- The policy of what is read then follows the flags that were put in, and nothing else changes. -/
theorem Options.Command.exists_follows_among (known : ∀ flag, .endpoint flag ∈ command.flags)
    (read : command.read base = .ok line)
    (fresh : ∀ flag value, ¬command.Sets base (.endpoint flag) value) (givable : Givable given)
    (among : Among (given.map GivenFlag.text) base arguments) :
    ∃ settings : Settings, command.read arguments = .ok ⟨settings, line.positionals⟩ ∧
      settings.policy.Follows given ∧
      ∀ flag, (∀ endpoint, flag ≠ .endpoint endpoint) →
        settings.find? flag = line.settings.find? flag := by
  obtain ⟨settings, read', found_iff⟩ := exists_read_among known read fresh givable among
  have typed : settings.Typed := typed_of_read read'
  refine ⟨settings, read', ⟨fun own member => ?_, fun flag outside => ?_⟩, fun flag other => ?_⟩
  · obtain ⟨value, valid⟩ := givable.valid own member
    have found := (found_iff (.endpoint own.1) value).mpr (.inl ⟨own, member, rfl, valid⟩)
    rw [Settings.value_policy typed, found, Option.getD_some, valid]
  · have none : settings.find? (.endpoint flag) = none := by
      refine Option.eq_none_iff_forall_ne_some.mpr fun value found => ?_
      rcases (found_iff _ _).mp found with ⟨own, member, same, -⟩ | before
      · exact outside (List.mem_map.mpr ⟨own, member, (Flag.endpoint.inj same).symm⟩)
      · exact fresh flag value ((find?_eq_some_iff read).mp before)
    rw [Settings.value_policy typed, none, Option.getD_none]
  · refine Option.ext fun value => (found_iff flag value).trans (or_iff_right ?_)
    rintro ⟨own, -, endpoint, -⟩
    exact other own.1 endpoint

end Reading

/-! ## The two commands that read them -/

/-- Flags about endpoints that stand alone are turned into the policy that follows them. -/
theorem EndpointPolicy.exists_ofFlags {given : List GivenFlag} (givable : Givable given) :
    ∃ policy, EndpointPolicy.ofFlags (given.map GivenFlag.text) = .ok policy ∧
      policy.Follows given := by
  have known (flag : EndpointFlag) : .endpoint flag ∈ endpointCommand.flags := by
    simp [endpointCommand, flag.mem_all]
  have nothing : endpointCommand.read [] = .ok ⟨[], []⟩ := rfl
  have fresh : ∀ flag value, ¬endpointCommand.Sets [] (.endpoint flag) value := by
    rintro flag value ⟨text, inside, -⟩
    exact List.not_mem_nil inside
  obtain ⟨settings, read, follows, -⟩ :=
    Command.exists_follows_among known nothing fresh givable (.front _ [])
  refine ⟨settings.policy, ?_, follows⟩
  rw [List.append_nil] at read
  rw [ofFlags, read]
  rfl

/-- Flags about endpoints among the arguments that open a session change nothing but the policy,
which follows them. -/
theorem Config.exists_ofArguments_among {given : List GivenFlag} (givable : Givable given)
    {base arguments : List String} {rate : Float32} {config : Config}
    (taken : Config.ofArguments base rate = .ok config)
    (fresh : ∀ flag value, ¬sessionCommand.Sets (sessionTexts base) (.endpoint flag) value)
    (among : Among (given.map GivenFlag.text) base arguments) :
    ∃ policy, Config.ofArguments arguments rate = .ok { config with endpoint := policy } ∧
      policy.Follows given := by
  have known (flag : EndpointFlag) : .endpoint flag ∈ sessionCommand.flags := by
    simp [sessionCommand, flag.mem_all]
  have own : ∀ text ∈ given.map GivenFlag.text, ¬IsEngineOption text := by
    intro text inside
    obtain ⟨set, -, rfl⟩ := List.mem_map.mp inside
    exact set.not_isEngineOption
  obtain ⟨usable, interval, line, read, rfl⟩ := Config.ofArguments_eq_ok_iff.mp taken
  obtain ⟨settings, read', follows, same⟩ :=
    Command.exists_follows_among known read fresh givable (among.session own)
  have line_eq : Config.ofLine ⟨settings, line.positionals⟩ (engineTexts base) rate =
      { Config.ofLine line (engineTexts base) rate with endpoint := settings.policy } := by
    simp [ofLine, Settings.text?, Settings.single?, Settings.boolean?, same]
  refine ⟨settings.policy, ?_, follows⟩
  refine Config.ofArguments_eq_ok_iff.mpr ⟨usable, interval, _, read', ?_⟩
  rw [among.engineTexts_eq own, line_eq]

/-- **Flags about endpoints set their own fields and no others.**  Flags that may be given come to
one policy: for every flag that is given it has the value that is given, which is true if the flag
stands alone and the text itself for the phones of silence, and for every other one it has the
standard value.  They come to it in whatever order they are given, by themselves or anywhere among
the arguments that open a session, where nothing else changes.  And reading a policy never fails,
whatever was read. -/
theorem endpoint_flags_set_their_fields {given : List GivenFlag} (givable : Givable given) :
    ∃ policy : EndpointPolicy, policy.Follows given ∧
      (∀ number, (.rule number .mustContainNonsilence, none) ∈ given →
        (policy.rule number).mustContainNonsilence = true) ∧
      (∀ phones, (.silencePhones, some phones) ∈ given → policy.silencePhones = phones) ∧
      (∀ shuffled : List GivenFlag, shuffled.Perm given →
        EndpointPolicy.ofFlags (shuffled.map GivenFlag.text) = .ok policy ∧
          ∀ base rate config, Config.ofArguments base rate = .ok config →
            (∀ flag value,
              ¬sessionCommand.Sets (sessionTexts base) (.endpoint flag) value) →
            ∀ arguments, Among (shuffled.map GivenFlag.text) base arguments →
              Config.ofArguments arguments rate = .ok { config with endpoint := policy }) ∧
      ∀ command : Command, (∀ flag, .endpoint flag ∈ command.flags) →
        ∀ arguments line, command.read arguments = .ok line →
          command.policyOf? line.settings = some line.settings.policy := by
  obtain ⟨policy, -, follows⟩ := EndpointPolicy.exists_ofFlags givable
  refine ⟨policy, follows, fun number inside => ?_, fun phones inside => ?_,
    fun shuffled order => ⟨?_, fun base rate config taken fresh arguments among => ?_⟩,
    fun command known arguments line read => Command.policyOf?_eq_some known read⟩
  · exact (FlagValue.boolean.inj (Option.some.inj (follows.held _ inside))).symm
  · exact (FlagValue.text.inj (Option.some.inj (follows.held _ inside))).symm
  · obtain ⟨other, found, follows'⟩ := EndpointPolicy.exists_ofFlags (givable.perm order)
    rw [found, (follows.perm order).unique follows']
  · obtain ⟨other, found, follows'⟩ :=
      Config.exists_ofArguments_among (givable.perm order) taken fresh among
    rw [found, (follows.perm order).unique follows']

/-- Two flags of a small rehearsal: a time for the second rule, and for the first one a flag that
stands alone. -/
def Rehearsal.smallFlags : List GivenFlag :=
  [(.rule ⟨1, by decide⟩ .minTrailingSilence, some "0.3"),
    (.rule ⟨0, by decide⟩ .mustContainNonsilence, none)]

theorem endpoint_flags_set_their_fields_small :
    Givable Rehearsal.smallFlags ∧
      ∃ policy : EndpointPolicy, policy.Follows Rehearsal.smallFlags ∧
        (policy.rule ⟨0, by decide⟩).mustContainNonsilence = true ∧
        EndpointPolicy.ofFlags ["--endpoint.rule1.must-contain-nonsilence",
          "--endpoint.rule2.min-trailing-silence=0.3"] = .ok policy ∧
        ∃ config, Config.ofArguments ["--word-symbol-table=w", "m", "--", "g"] 1.0 = .ok config ∧
          Config.ofArguments ["--endpoint.rule2.min-trailing-silence=0.3",
            "--word-symbol-table=w", "m", "--endpoint.rule1.must-contain-nonsilence", "--", "g"]
            1.0 = .ok { config with endpoint := policy } := by
  have givable : Givable Rehearsal.smallFlags := {
    valid := by
      rintro set (_ | ⟨_, _ | ⟨_, ⟨⟩⟩⟩)
      · exact ⟨_, rfl⟩
      · exact ⟨_, rfl⟩
    once := by decide }
  have base : sessionCommand.read (sessionTexts ["--word-symbol-table=w", "m", "--", "g"]) =
      .ok ⟨[(.wordSymbolTable, .text "w")], ["m", "g"]⟩ := by rfl
  have fresh : ∀ flag value, ¬sessionCommand.Sets
      (sessionTexts ["--word-symbol-table=w", "m", "--", "g"]) (.endpoint flag) value := by
    intro flag value sets
    have found := (Command.find?_eq_some_iff base).mpr sets
    simp [Settings.find?] at found
  obtain ⟨policy, follows, alone, -, reads, -⟩ := endpoint_flags_set_their_fields givable
  have taken : Config.ofArguments ["--word-symbol-table=w", "m", "--", "g"] 1.0 = .ok
      (.ofLine ⟨[(.wordSymbolTable, .text "w")], ["m", "g"]⟩ [] 1.0) :=
    Config.ofArguments_eq_ok_iff.mpr ⟨by decide +kernel, by decide +kernel, _, base, rfl⟩
  refine ⟨givable, policy, follows, alone _ (by simp [Rehearsal.smallFlags]),
    (reads _ (.swap _ _ [])).1, _, taken, (reads _ (.refl _)).2 _ _ _ taken fresh _ ?_⟩
  exact .inserted (.kept (by decide) (.kept (by decide) (.inserted (.done _))))

end LiveSpeech
