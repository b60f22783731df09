import LiveSpeech.Options.Help

/-!
# The configuration of a session

The arguments that open a session are of two sorts.  Those that name a flag of the session, or
one about endpoints, and those that are no flag at all make up the command line of the
session.  All other flags are options of the engine: they are taken out first, wherever they
stand, and handed to the engine in their order.

A configuration also fixes two sizes for every native rate of an engine: the samples of a
chunk and the samples between two outputs.
-/

namespace LiveSpeech

set_option autoImplicit false

open LiveSpeech.Options LiveSpeech.Number

/-- What a session is to do.  The chunk length and the output interval are in seconds. -/
structure Config where
  model : String
  graph : String
  wordSymbolTable : String
  chunkLength : Float32
  doEndpointing : Bool
  maxFinalCost : Float32
  outputInterval : Float32
  endpoint : EndpointPolicy
  engineOptions : List String
  rate : Float32

/-- Why there is no configuration. -/
inductive ConfigError where
  | badRate (rate : Float32)
  | refused (refusal : Refusal)
  | badInterval (interval : Float32)

/-- The command line of a session. -/
def sessionCommand : Command where
  name := "asr-session"
  about := some ("Performs online decoding with optional iVector-based speaker adaptation and " ++
    "endpointing. Flags not listed here are passed to the decoding engine.")
  flags := Flag.session ++ EndpointFlag.all.map Flag.endpoint ++ [.help]
  required := [.wordSymbolTable]
  positionals := [⟨"nnet3-in", "Acoustic model"⟩, ⟨"fst-in", "Decoding graph"⟩]
  grouped := Flag.session

/-- The command line that has flags about endpoints alone. -/
def endpointCommand : Command where
  name := "endpoint"
  about := none
  flags := EndpointFlag.all.map Flag.endpoint ++ [.help]
  required := []
  positionals := []
  grouped := []

/-- The policy that flags about endpoints describe. -/
def EndpointPolicy.ofFlags (flags : List String) : Except Refusal EndpointPolicy :=
  (endpointCommand.read flags).map fun line => line.settings.policy

def ConfigError.message : ConfigError → String
  | .badRate rate => "Invalid sample frequency: " ++ plain rate
  | .refused refusal => sessionCommand.refusalText refusal
  | .badInterval interval =>
    "--output-interval must be positive, got " ++ plain interval ++ "\n\n" ++ sessionCommand.help

/-- A message with the help behind it. -/
def withHelp (message : String) : String := message ++ "\n\n" ++ sessionCommand.help

/-- What the operator is told. -/
def ConfigError.usageText : ConfigError → String
  | .badRate rate => withHelp (ConfigError.badRate rate).message
  | error => error.message

/-- Whether the session itself knows the name of a flag. -/
def isSessionName (name : List Char) : Bool :=
  endpointStem.toList.isPrefixOf name ||
    (Flag.session ++ [Flag.help]).any fun flag => flag.name.toList == name

/-- Whether an argument is an option of the engine: a flag whose name the session does not
know. -/
def isEngineOption (argument : String) : Bool :=
  match argument.toList with
  | '-' :: '-' :: letter :: others => !isSessionName (splitValue (letter :: others)).1
  | _ => false

/-- Whether a number is finite and above zero. -/
def isPositive (number : Float32) : Bool := number.isFinite && 0.0 < number

namespace Config

/-- The seconds of audio in a chunk if nothing else is said. -/
def standardChunkLength : Float32 := nearest Float32 false 18 100

/-- The relative cost above which a transcript is empty if nothing else is said. -/
def standardMaxFinalCost : Float32 := 8.0

/-- The seconds of audio between two outputs if nothing else is said. -/
def standardOutputInterval : Float32 := 1.0

/-- The configuration that a command line without options of the engine describes. -/
def ofLine (line : CommandLine) (engineOptions : List String) (rate : Float32) : Config where
  model := (line.positionals[0]?).getD ""
  graph := (line.positionals[1]?).getD ""
  wordSymbolTable := (line.settings.text? .wordSymbolTable).getD ""
  chunkLength := (line.settings.single? .chunkLength).getD standardChunkLength
  doEndpointing := (line.settings.boolean? .doEndpointing).getD true
  maxFinalCost := (line.settings.single? .maxFinalCost).getD standardMaxFinalCost
  outputInterval := (line.settings.single? .outputInterval).getD standardOutputInterval
  endpoint := line.settings.policy
  engineOptions := engineOptions
  rate := rate

/-- The configuration that arguments describe for audio of a rate.  The rate is looked at
first and the interval between outputs last. -/
def ofArguments (arguments : List String) (rate : Float32) : Except ConfigError Config :=
  if !isPositive rate then .error (.badRate rate)
  else
    match sessionCommand.read (arguments.filter fun argument => !isEngineOption argument) with
    | .error refusal => .error (.refused refusal)
    | .ok line =>
      let config := ofLine line (arguments.filter isEngineOption) rate
      if isPositive config.outputInterval then .ok config
      else .error (.badInterval config.outputInterval)

/-- The largest count of samples that can be asked for. -/
def countLimit : Int := Nat.pow 2 64 - 1

/-- The samples of a chunk at a native rate, at least one. -/
def chunkCapacity (config : Config) (nativeRate : Float32) : Nat :=
  max 1 ((reading (nativeRate * config.chunkLength)).saturatingWhole 0 countLimit).toNat

/-- The samples between two outputs at a native rate, at least one. -/
def samplesPerTick (config : Config) (nativeRate : Float32) : Int :=
  max 1 ((reading (nativeRate * config.outputInterval)).saturatingWhole
    (-Nat.pow 2 63) (Nat.pow 2 63 - 1))

end Config

end LiveSpeech
