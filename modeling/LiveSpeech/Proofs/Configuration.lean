import LiveSpeech.Config
import LiveSpeech.Proofs.CommandLine

/-!
# The configuration that arguments describe

Arguments are of two sorts.  The options of the engine (`IsEngineOption`) are taken out first,
wherever they stand, and the rest is the command line of the session.  Arguments describe a
configuration if that command line is written by the grammar, no flag is given twice, there are
two positional arguments that are not empty, the symbol table is given, and the rate of the audio
and the time between two outputs are finite and above zero (`Describe`).

Main result: a configuration is made of exactly the arguments that describe one.  It has the
positional arguments in their order, for every field the value of its flag or the default, and the
options of the engine in their order (`Config.Taken`).  The order of the flags among each other
and between the other arguments changes nothing (`ofArguments_by_grammar`).
-/

namespace LiveSpeech

set_option autoImplicit false

open LiveSpeech.Options

/-! ## Options of the engine -/

/-- A name that the session knows: that of one of its own flags, of help, or any about
endpoints. -/
def IsSessionName (name : String) : Prop :=
  endpointStem.toList <+: name.toList ∨ ∃ flag ∈ Flag.session ++ [.help], flag.name = name

/-- **An option of the engine**: a flag, with a value or without and longer than its two dashes,
whose name the session does not know. -/
def IsEngineOption (argument : String) : Prop :=
  argument ≠ "--" ∧ ∃ name value, '=' ∉ name.toList ∧ argument = flagText name value ∧
    ¬IsSessionName name

theorem isSessionName_iff {name : String} :
    isSessionName name.toList = true ↔ IsSessionName name := by
  simp [isSessionName, IsSessionName, String.toList_inj]

theorem isEngineOption_iff {argument : String} :
    isEngineOption argument = true ↔ IsEngineOption argument := by
  have form : isEngineOption argument = true ↔
      ∃ name value, Argument.ofText argument = .long name value ∧ ¬IsSessionName name := by
    have named : ∀ letters : List Char,
        isSessionName letters = true ↔ IsSessionName (String.ofList letters) := fun letters => by
      rw [← isSessionName_iff, String.toList_ofList]
    rw [isEngineOption, Argument.ofText]
    generalize argument.toList = letters
    split
    case h_1 letter others =>
      simp [← named]
    case h_2 other =>
      split
      case h_2 flag more =>
        cases flag with
        | nil => exact absurd rfl more
        | cons letter others => exact absurd rfl (other letter others)
      all_goals simp
  simp only [form, Argument.ofText_eq_long_iff, IsEngineOption]
  constructor
  · rintro ⟨name, value, ⟨longer, plain, written⟩, unknown⟩
    exact ⟨longer, name, value, plain, written, unknown⟩
  · rintro ⟨longer, name, value, plain, written, unknown⟩
    exact ⟨name, value, ⟨longer, plain, written⟩, unknown⟩

instance : DecidablePred IsEngineOption := fun _ => decidable_of_iff _ isEngineOption_iff

/-- The arguments that are left to the engine. -/
def engineTexts (arguments : List String) : List String :=
  arguments.filter fun argument => IsEngineOption argument

/-- The arguments of the session itself. -/
def sessionTexts (arguments : List String) : List String :=
  arguments.filter fun argument => ¬IsEngineOption argument

/-! ## Arguments that describe a configuration -/

/-- **Arguments describe a configuration** for audio of a rate. -/
structure Describe (arguments : List String) (rate : Float32) : Prop where
  /-- The rate is finite and above zero. -/
  rate : isPositive rate = true
  /-- Before the first lone `--` there are flags with values of theirs, and positional
  arguments.  Help has no value and cannot stand among them. -/
  forms : ∀ argument ∈ inFront (sessionTexts arguments),
    (∃ flag value, sessionCommand.Gives argument flag value) ∨ IsPositional argument
  /-- No flag is given twice. -/
  once : sessionCommand.GiveOnce (flagTexts (sessionTexts arguments))
  /-- There is one positional argument for the acoustic model and one for the graph. -/
  files : ∃ model graph, positionalTexts (sessionTexts arguments) = [model, graph] ∧
    model ≠ "" ∧ graph ≠ ""
  /-- The symbol table is given. -/
  symbols : ∃ path, path ≠ "" ∧
    sessionCommand.Sets (sessionTexts arguments) .wordSymbolTable (.text path)
  /-- The time between two outputs, given or not, is finite and above zero. -/
  interval : ∃ seconds, sessionCommand.Yields (sessionTexts arguments) .outputInterval .single
    Config.standardOutputInterval seconds ∧ isPositive seconds = true

/-- A rule about endpoints with what arguments yield for its fields. -/
structure EndpointRule.Taken (rule : EndpointRule) (arguments : List String) (number : Fin 5) :
    Prop where
  mustContainNonsilence : sessionCommand.Yields arguments
    (.endpoint (.rule number .mustContainNonsilence)) .boolean
    (EndpointRule.standard number).mustContainNonsilence rule.mustContainNonsilence
  minTrailingSilence : sessionCommand.Yields arguments
    (.endpoint (.rule number .minTrailingSilence)) .single
    (EndpointRule.standard number).minTrailingSilence rule.minTrailingSilence
  maxRelativeCost : sessionCommand.Yields arguments
    (.endpoint (.rule number .maxRelativeCost)) .single
    (EndpointRule.standard number).maxRelativeCost rule.maxRelativeCost
  minUtteranceLength : sessionCommand.Yields arguments
    (.endpoint (.rule number .minUtteranceLength)) .single
    (EndpointRule.standard number).minUtteranceLength rule.minUtteranceLength

/-- **A configuration with what arguments yield**: the files in their order, for every field the
value of its flag or its default, and the options of the engine in their order. -/
structure Config.Taken (config : Config) (arguments : List String) (rate : Float32) : Prop where
  files : positionalTexts (sessionTexts arguments) = [config.model, config.graph]
  wordSymbolTable : sessionCommand.Sets (sessionTexts arguments) .wordSymbolTable
    (.text config.wordSymbolTable)
  chunkLength : sessionCommand.Yields (sessionTexts arguments) .chunkLength .single
    standardChunkLength config.chunkLength
  doEndpointing : sessionCommand.Yields (sessionTexts arguments) .doEndpointing .boolean
    true config.doEndpointing
  maxFinalCost : sessionCommand.Yields (sessionTexts arguments) .maxFinalCost .single
    standardMaxFinalCost config.maxFinalCost
  outputInterval : sessionCommand.Yields (sessionTexts arguments) .outputInterval .single
    standardOutputInterval config.outputInterval
  silencePhones : sessionCommand.Yields (sessionTexts arguments) (.endpoint .silencePhones) .text
    EndpointPolicy.standard.silencePhones config.endpoint.silencePhones
  rule : ∀ number, (config.endpoint.rule number).Taken (sessionTexts arguments) number
  engineOptions : config.engineOptions = engineTexts arguments
  rate : config.rate = rate

/-- Arguments that differ in the order of the flags alone. -/
structure Reordered (arguments other : List String) : Prop where
  flags : (flagTexts (sessionTexts other)).Perm (flagTexts (sessionTexts arguments))
  files : positionalTexts (sessionTexts other) = positionalTexts (sessionTexts arguments)
  engineOptions : engineTexts other = engineTexts arguments

/-! ## The configuration of a command line -/

section Line

variable {arguments other : List String} {rate : Float32} {config : Config} {line : CommandLine}

/-- What it takes for arguments to be turned into a configuration. -/
theorem Config.ofArguments_eq_ok_iff :
    Config.ofArguments arguments rate = .ok config ↔
      isPositive rate = true ∧ isPositive config.outputInterval = true ∧
        ∃ line, sessionCommand.read (sessionTexts arguments) = .ok line ∧
          config = .ofLine line (engineTexts arguments) rate := by
  have session : (arguments.filter fun argument => !isEngineOption argument) =
      sessionTexts arguments := by
    simp [sessionTexts, ← isEngineOption_iff]
  have engine : arguments.filter isEngineOption = engineTexts arguments := by
    simp [engineTexts, ← isEngineOption_iff]
  rw [ofArguments, session, engine]
  split
  · next unusable => simp_all
  · next usable =>
    cases read : sessionCommand.read (sessionTexts arguments) with
    | error refusal => simp
    | ok line =>
      have usable : isPositive rate = true := by simpa using usable
      simp only [Except.ok.injEq, exists_eq_left', usable, true_and]
      generalize Config.ofLine line (engineTexts arguments) rate = found
      split
      · next positive =>
        rw [Except.ok.injEq, eq_comm]
        refine (and_iff_right_of_imp ?_).symm
        rintro rfl
        exact positive
      · next unfit =>
        refine iff_of_false nofun ?_
        rintro ⟨positive, rfl⟩
        exact unfit positive

/-- A configuration has what was read for its fields. -/
theorem Config.ofLine_congr {settings : Settings} {engineOptions : List String}
    (alike : ∀ flag, settings.find? flag = line.settings.find? flag) :
    Config.ofLine ⟨settings, line.positionals⟩ engineOptions rate =
      .ofLine line engineOptions rate := by
  simp only [ofLine, Settings.policy, Settings.rule, Settings.single?, Settings.boolean?,
    Settings.text?, alike]

/-- A rule about endpoints has what was read for its fields. -/
theorem Settings.rule_taken (read : sessionCommand.read arguments = .ok line) (number : Fin 5) :
    (line.settings.rule number (EndpointRule.standard number)).Taken arguments number where
  mustContainNonsilence := (Command.yields_boolean read (.inr rfl)).mpr rfl
  minTrailingSilence := (Command.yields_single read rfl).mpr rfl
  maxRelativeCost := (Command.yields_single read rfl).mpr rfl
  minUtteranceLength := (Command.yields_single read rfl).mpr rfl

/-- The positional arguments of a session are two. -/
theorem exists_files_iff (texts : List String) :
    (texts.length = sessionCommand.positionals.length ∧ "" ∉ texts) ↔
      ∃ model graph, texts = [model, graph] ∧ model ≠ "" ∧ graph ≠ "" := by
  have two : sessionCommand.positionals.length = 2 := rfl
  rw [two, List.length_eq_two]
  constructor
  · rintro ⟨⟨model, graph, rfl⟩, filled⟩
    exact ⟨model, graph, rfl, by grind, by grind⟩
  · rintro ⟨model, graph, rfl, model_filled, graph_filled⟩
    exact ⟨⟨model, graph, rfl⟩, by grind⟩

/-- The path of the symbol table is given and not empty, as soon as its flag is set. -/
theorem exists_symbols_iff :
    (∃ value, sessionCommand.Sets arguments .wordSymbolTable value) ↔
      ∃ path, path ≠ "" ∧ sessionCommand.Sets arguments .wordSymbolTable (.text path) := by
  constructor
  · rintro ⟨value, set⟩
    obtain ⟨content, taken⟩ := set.taken
    obtain ⟨path, rfl⟩ := ValueKind.given?_text (.inl rfl) taken
    exact ⟨path, ValueKind.given?_path taken, set⟩
  · rintro ⟨path, -, set⟩
    exact ⟨_, set⟩

theorem ofLine_taken (read : sessionCommand.read (sessionTexts arguments) = .ok line) :
    (Config.ofLine line (engineTexts arguments) rate).Taken arguments rate where
  files := by
    obtain ⟨-, positionals, complete⟩ := Command.read_eq_ok_iff.mp read
    obtain ⟨model, graph, two, -⟩ := (exists_files_iff _).mp ⟨complete.count, complete.filled⟩
    rw [← positionals, two]
    simp [Config.ofLine, two]
  wordSymbolTable := by
    obtain ⟨-, -, -, -, required⟩ := Command.exists_read_iff.mp ⟨line, read⟩
    obtain ⟨path, -, set⟩ := exists_symbols_iff.mp (required .wordSymbolTable (by decide))
    have found := (Command.find?_eq_some_iff read).mpr set
    simpa [Config.ofLine, Settings.text?, found] using set
  chunkLength := (Command.yields_single read rfl).mpr rfl
  doEndpointing := (Command.yields_boolean read (.inl rfl)).mpr rfl
  maxFinalCost := (Command.yields_single read rfl).mpr rfl
  outputInterval := (Command.yields_single read rfl).mpr rfl
  silencePhones := (Command.yields_text read (.inr rfl)).mpr rfl
  rule := Settings.rule_taken read
  engineOptions := rfl
  rate := rfl

end Line

/-- **Arguments are taken exactly if they are written by the grammar**, and what becomes of them
does not depend on the order of the flags. -/
theorem ofArguments_by_grammar (arguments : List String) (rate : Float32) :
    ((∃ config, Config.ofArguments arguments rate = .ok config) ↔ Describe arguments rate) ∧
      ∀ config, Config.ofArguments arguments rate = .ok config →
        config.Taken arguments rate ∧
        ∀ other, Reordered arguments other → Config.ofArguments other rate = .ok config := by
  refine ⟨⟨?_, ?_⟩, fun config taken => ⟨?_, fun other reordered => ?_⟩⟩
  · rintro ⟨config, taken⟩
    obtain ⟨usable, interval, line, read, rfl⟩ := Config.ofArguments_eq_ok_iff.mp taken
    obtain ⟨forms, once, count, filled, required⟩ := Command.exists_read_iff.mp ⟨line, read⟩
    exact {
      rate := usable
      forms := forms
      once := once
      files := (exists_files_iff _).mp ⟨count, filled⟩
      symbols := exists_symbols_iff.mp (required .wordSymbolTable (by decide))
      interval := ⟨_, (ofLine_taken read).outputInterval, interval⟩ }
  · intro describe
    obtain ⟨count, filled⟩ := (exists_files_iff _).mpr describe.files
    have symbols := exists_symbols_iff.mpr describe.symbols
    obtain ⟨line, read⟩ := Command.exists_read_iff.mpr ⟨describe.forms, describe.once, count,
      filled, by simpa [sessionCommand] using symbols⟩
    obtain ⟨seconds, yields, positive⟩ := describe.interval
    obtain rfl := (Command.yields_single read rfl).mp yields
    exact ⟨.ofLine line (engineTexts arguments) rate,
      Config.ofArguments_eq_ok_iff.mpr ⟨describe.rate, positive, line, read, rfl⟩⟩
  · obtain ⟨-, -, line, read, rfl⟩ := Config.ofArguments_eq_ok_iff.mp taken
    exact ofLine_taken read
  · obtain ⟨usable, interval, line, read, rfl⟩ := Config.ofArguments_eq_ok_iff.mp taken
    obtain ⟨settings, read_other, alike⟩ :=
      Command.read_of_perm read reordered.flags reordered.files
    refine Config.ofArguments_eq_ok_iff.mpr ⟨usable, interval, _, read_other, ?_⟩
    rw [Config.ofLine_congr alike, reordered.engineOptions]

/-- Arguments of a small rehearsal: an option of the engine, two flags, and a second positional
argument that looks like a flag. -/
def Rehearsal.smallArguments : List String :=
  ["--beam=13.0", "m", "--do-endpointing", "--word-symbol-table=w", "--", "-g"]

/-- The same arguments with their flags elsewhere. -/
def Rehearsal.shuffledArguments : List String :=
  ["--word-symbol-table=w", "--do-endpointing", "--beam=13.0", "m", "--", "-g"]

theorem ofArguments_by_grammar_small :
    Reordered Rehearsal.smallArguments Rehearsal.shuffledArguments ∧
      Describe Rehearsal.smallArguments 1.0 ∧
      ∃ config, Config.ofArguments Rehearsal.smallArguments 1.0 = .ok config ∧
        config.Taken Rehearsal.smallArguments 1.0 ∧
        Config.ofArguments Rehearsal.shuffledArguments 1.0 = .ok config := by
  have reordered : Reordered Rehearsal.smallArguments Rehearsal.shuffledArguments :=
    ⟨by decide +kernel, by decide +kernel, by decide +kernel⟩
  have opened : ∃ config, Config.ofArguments Rehearsal.smallArguments 1.0 = .ok config := by
    have succeeds : (Config.ofArguments Rehearsal.smallArguments 1.0).toBool = true := by
      decide +kernel
    revert succeeds
    cases Config.ofArguments Rehearsal.smallArguments 1.0 with
    | error refusal => exact nofun
    | ok config => exact fun _ => ⟨config, rfl⟩
  obtain ⟨accepted, described⟩ := ofArguments_by_grammar Rehearsal.smallArguments 1.0
  obtain ⟨config, taken⟩ := opened
  obtain ⟨whole, shuffled⟩ := described config taken
  exact ⟨reordered, accepted.mp ⟨config, taken⟩, config, taken, whole, shuffled _ reordered⟩

end LiveSpeech
