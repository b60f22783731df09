import LiveSpeech.Proofs.Configuration

/-!
# Options of the engine do not interfere

Among the arguments that open a session may stand options of the engine, and what they say is up
to the engine.  For the session they are not there: the configuration, or the error with
everything its wording is made of, is that of the other arguments alone, and the options are only
handed on (`Config.ofArguments_eq_map`).

So an option may be put in anywhere.  That includes the places where an argument of the session
would be read as something else or not at all: behind the lone `--`, where even a flag is
positional, and behind an argument that is refused (`engine_option_apart`).
-/

namespace LiveSpeech

set_option autoImplicit false

open LiveSpeech.Options

/-! ## Sorting arguments -/

section Sorting

variable {option : String} {before after arguments : List String}

/-- Where an option of the engine stands among the arguments makes no difference to the session. -/
theorem sessionTexts_insert (unknown : IsEngineOption option) :
    sessionTexts (before ++ option :: after) = sessionTexts (before ++ after) := by
  simp [sessionTexts, unknown]

/-- An option of the engine stands among the others as it does among the arguments. -/
theorem engineTexts_insert (unknown : IsEngineOption option) :
    engineTexts (before ++ option :: after) =
      engineTexts before ++ option :: engineTexts after := by
  simp [engineTexts, unknown]

/-- What the session has of its own arguments is all of them. -/
theorem sessionTexts_sessionTexts :
    sessionTexts (sessionTexts arguments) = sessionTexts arguments := by
  simp [sessionTexts]

end Sorting

/-! ## Handing options on -/

/-- The configuration in which the engine has other options. -/
def Config.withOptions (config : Config) (options : List String) : Config :=
  { config with engineOptions := options }

/-- **Options of the engine are only handed on**: without them the arguments come to the same
configuration, but for the options, or to the same error. -/
theorem Config.ofArguments_eq_map (arguments : List String) (rate : Float32) :
    Config.ofArguments arguments rate =
      (Config.ofArguments (sessionTexts arguments) rate).map
        (·.withOptions (engineTexts arguments)) := by
  have sorted (arguments : List String) :
      (arguments.filter fun argument => !isEngineOption argument) = sessionTexts arguments ∧
        arguments.filter isEngineOption = engineTexts arguments := by
    simp [sessionTexts, engineTexts, ← isEngineOption_iff]
  simp only [ofArguments, (sorted _).1, (sorted _).2, sessionTexts_sessionTexts]
  by_cases usable : isPositive rate = true
  · cases sessionCommand.read (sessionTexts arguments) with
    | error refusal => simp [usable, Except.map]
    | ok line =>
      -- The time between two outputs is looked at behind the options, and does not depend on them.
      have interval (options : List String) :
          (Config.ofLine line options rate).outputInterval =
            (Config.ofLine line [] rate).outputInterval := rfl
      simp only [usable, Bool.not_true, Bool.false_eq_true, if_false, interval]
      split <;> rfl
  · simp [usable, Except.map]

/-- Arguments of which the session has the same come to the same, but for the options that are
handed on. -/
theorem Config.ofArguments_congr {arguments other : List String}
    (same : sessionTexts arguments = sessionTexts other) (rate : Float32) :
    Config.ofArguments arguments rate =
      (Config.ofArguments other rate).map (·.withOptions (engineTexts arguments)) := by
  rw [ofArguments_eq_map arguments, ofArguments_eq_map other, same]
  cases Config.ofArguments (sessionTexts other) rate <;> rfl

/-- The options of a configuration are those among the arguments. -/
theorem Config.engineOptions_of_ofArguments {arguments : List String} {rate : Float32}
    {config : Config} (taken : Config.ofArguments arguments rate = .ok config) :
    config.engineOptions = engineTexts arguments := by
  obtain ⟨-, -, line, -, rfl⟩ := Config.ofArguments_eq_ok_iff.mp taken
  rfl

/-- **An option of the engine does not interfere.**  Wherever it is put in among the arguments,
and whatever they are: if there is a configuration without it, it is the configuration with it,
but that the option stands among the other options in the place it has among the arguments.  If
there is none, it is for the same error, which tells the operator the same. -/
theorem engine_option_apart {option : String} (unknown : IsEngineOption option)
    (before after : List String) (rate : Float32) :
    (∀ config, Config.ofArguments (before ++ after) rate = .ok config →
      config.engineOptions = engineTexts before ++ engineTexts after ∧
        Config.ofArguments (before ++ option :: after) rate = .ok
          { config with engineOptions := engineTexts before ++ option :: engineTexts after }) ∧
      ∀ error, Config.ofArguments (before ++ after) rate = .error error →
        Config.ofArguments (before ++ option :: after) rate = .error error := by
  have same : sessionTexts (before ++ option :: after) = sessionTexts (before ++ after) :=
    sessionTexts_insert unknown
  have more := Config.ofArguments_congr same rate
  rw [engineTexts_insert unknown] at more
  refine ⟨fun config taken => ⟨?_, ?_⟩, fun error refused => ?_⟩
  · rw [Config.engineOptions_of_ofArguments taken, engineTexts, List.filter_append]
    rfl
  · rw [more, taken]
    rfl
  · rw [more, refused]
    rfl

/-- An option whose name begins like that of a flag may stand behind the lone `--`, and one without
a name behind a flag that is refused. -/
theorem engine_option_apart_small :
    (IsEngineOption "--chunk=3" ∧
      ∃ config, Config.ofArguments ["--word-symbol-table=w", "m", "--", "g"] 1.0 = .ok config ∧
        Config.ofArguments ["--word-symbol-table=w", "m", "--", "--chunk=3", "g"] 1.0 =
          .ok { config with engineOptions := ["--chunk=3"] }) ∧
      IsEngineOption "--=3" ∧
      ∃ error, Config.ofArguments ["--chunk-length=x", "m"] 1.0 = .error error ∧
        Config.ofArguments ["--chunk-length=x", "--=3", "m"] 1.0 = .error error := by
  have known : IsEngineOption "--chunk=3" := by decide +kernel
  have nameless : IsEngineOption "--=3" := by decide +kernel
  refine ⟨⟨known, ?_⟩, nameless, ?_⟩
  · have opened : (Config.ofArguments ["--word-symbol-table=w", "m", "--", "g"] 1.0).toBool =
        true := by decide +kernel
    cases taken : Config.ofArguments ["--word-symbol-table=w", "m", "--", "g"] 1.0 with
    | error error => exact nomatch (congrArg Except.toBool taken).symm.trans opened
    | ok config =>
      obtain ⟨-, more⟩ := (engine_option_apart known ["--word-symbol-table=w", "m", "--"] ["g"]
        1.0).1 config taken
      exact ⟨config, rfl, more⟩
  · have refused : (Config.ofArguments ["--chunk-length=x", "m"] 1.0).toBool = false := by
      decide +kernel
    cases failed : Config.ofArguments ["--chunk-length=x", "m"] 1.0 with
    | ok config => exact nomatch (congrArg Except.toBool failed).symm.trans refused
    | error error =>
      exact ⟨error, rfl,
        (engine_option_apart nameless ["--chunk-length=x"] ["m"] 1.0).2 error failed⟩

end LiveSpeech
