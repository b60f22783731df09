import LiveSpeech.Options.Flag
import LiveSpeech.Text.Similarity

/-!
# Reading command lines

A command line is a list of arguments.  An argument is a flag, `--name=value` or for some
flags a bare `--name`, or it is positional.  After a lone `--` every argument is positional.

The arguments are read in order and the first thing that is wrong ends the reading, with two
refinements.  An empty positional argument is noticed only when it is taken in, and that is
when the next known flag or the next positional argument is, or at the end; and what is
missing is noticed at the end.
-/

namespace LiveSpeech.Options

set_option autoImplicit false

open LiveSpeech.Text

/-- A positional argument: what it is called and what it is for. -/
structure Positional where
  name : String
  help : String
  deriving DecidableEq, Repr

/-- A positional argument as it is shown. -/
def Positional.shown (positional : Positional) : String := "<" ++ positional.name ++ ">"

/-- What a command line may hold. -/
structure Command where
  name : String
  about : Option String
  flags : List Flag
  required : List Flag
  positionals : List Positional
  grouped : List Flag

/-- The flags that were given, with their values, in the order in which they were given. -/
abbrev Settings := List (Flag × FlagValue)

/-- What a command line holds. -/
structure CommandLine where
  settings : Settings
  positionals : List String

/-- What has been read of a command line.  A positional argument is taken in only when the next
argument is. -/
structure Progress where
  line : CommandLine
  pending : Option String

/-- What a command line makes use of. -/
structure Used where
  flags : List Flag
  positional : Bool

/-- The flags that were given. -/
def CommandLine.given (line : CommandLine) : List Flag := line.settings.map (·.1)

/-- What has been taken in. -/
def Progress.taken (progress : Progress) : Used :=
  ⟨progress.line.given, !progress.line.positionals.isEmpty⟩

/-- What has been read, taken in or not. -/
def Progress.seen (progress : Progress) : Used :=
  ⟨progress.line.given, !progress.line.positionals.isEmpty || progress.pending.isSome⟩

/-- Why a command line is refused. -/
inductive Refusal where
  | help
  | valueMissing (flag : Flag)
  | repeated (flag : Flag)
  | badValue (flag : Flag) (value : String)
  | emptyPositional (positional : Positional)
  | extraPositional (value : String)
  | unknownLetter (letter : Char)
  | unknownFlag (name : String) (similar : Option Flag) (used : Used)
  | needlessValue (flag : Flag) (value : String) (used : Used)
  | missing (flags : List Flag) (positionals : List Positional) (used : List Flag)

/-- An argument by its form. -/
inductive Argument where
  | separator
  | long (name : String) (value : Option String)
  | short (letter : Char)
  | positional (content : String)
  deriving DecidableEq, Repr

/-- The name and the value of a flag that is written as one. -/
def splitValue (flag : List Char) : List Char × Option (List Char) :=
  match flag.dropWhile (· ≠ '=') with
  | [] => (flag, none)
  | _ :: value => (flag.takeWhile (· ≠ '='), some value)

/-- The form of an argument. -/
def Argument.ofText (text : String) : Argument :=
  match text.toList with
  | ['-', '-'] => .separator
  | '-' :: '-' :: flag =>
    let (name, value) := splitValue flag
    .long (String.ofList name) (value.map String.ofList)
  | ['-'] => .positional text
  | '-' :: letter :: _ => .short letter
  | _ => .positional text

namespace Command

/-- The flag of a name. -/
def flag? (command : Command) (name : String) : Option Flag :=
  command.flags.find? fun flag => flag.name = name

/-- The flag whose name is most similar to a name. -/
def similarFlag? (command : Command) (name : String) : Option Flag :=
  (mostSimilar? name (command.flags.map Flag.name)).bind command.flag?

/-- Takes in a positional argument that has been read, unless it is empty. -/
def settle (command : Command) (progress : Progress) : Except Refusal CommandLine :=
  match progress.pending with
  | none => .ok progress.line
  | some content =>
    match command.positionals[progress.line.positionals.length]?, content.isEmpty with
    | some positional, true => .error (.emptyPositional positional)
    | _, _ => .ok { progress.line with positionals := progress.line.positionals ++ [content] }

/-- Takes in a known flag with its value. -/
def addFlag (command : Command) (progress : Progress) (flag : Flag)
    (value : Except Refusal FlagValue) : Except Refusal Progress := do
  let line ← command.settle progress
  if flag ∈ line.given then throw (.repeated flag)
  let value ← value
  return ⟨{ line with settings := line.settings ++ [(flag, value)] }, none⟩

/-- Reads a positional argument. -/
def addPositional (command : Command) (progress : Progress) (content : String) :
    Except Refusal Progress := do
  if command.positionals.length ≤
      progress.line.positionals.length + progress.pending.toList.length then
    throw (.extraPositional content)
  let line ← command.settle progress
  return ⟨line, some content⟩

/-- Takes in the help flag, which ends the reading. -/
def askHelp {α : Type} (command : Command) (progress : Progress) : Except Refusal α := do
  discard (command.settle progress)
  throw .help

/-- Takes in a flag that is written with its name. -/
def addLong (command : Command) (progress : Progress) (name : String) (value : Option String) :
    Except Refusal Progress :=
  match command.flag? name with
  | none => .error (.unknownFlag name (command.similarFlag? name) progress.seen)
  | some flag =>
    match flag.kind, value with
    | .nothing, none => command.askHelp progress
    | .nothing, some text => .error (.needlessValue flag text progress.taken)
    | kind, none =>
      match kind.bare? with
      | some truth => command.addFlag progress flag (.ok truth)
      | none => .error (.valueMissing flag)
    | kind, some text =>
      command.addFlag progress flag <| match kind.read? text with
        | some found => .ok found
        | none => .error (.badValue flag text)

/-- The command line after the last argument: nothing may be missing. -/
def finish (command : Command) (progress : Progress) : Except Refusal CommandLine := do
  let line ← command.settle progress
  let flags := command.required.filter fun flag => flag ∉ line.given
  let positionals := command.positionals.drop line.positionals.length
  if flags.isEmpty ∧ positionals.isEmpty then return line
  else throw (.missing flags positionals line.given)

/-- Reads arguments that are all positional. -/
def readPositionals (command : Command) (progress : Progress) :
    List String → Except Refusal CommandLine
  | [] => command.finish progress
  | content :: rest => (command.addPositional progress content).bind fun next =>
    command.readPositionals next rest

/-- Reads arguments on, given what was read so far. -/
def readOn (command : Command) (progress : Progress) : List String → Except Refusal CommandLine
  | [] => command.finish progress
  | text :: rest =>
    match Argument.ofText text with
    | .separator => command.readPositionals progress rest
    | .long name value => (command.addLong progress name value).bind fun next =>
      command.readOn next rest
    | .short letter =>
      if letter = 'h' then command.askHelp progress else .error (.unknownLetter letter)
    | .positional content => (command.addPositional progress content).bind fun next =>
      command.readOn next rest

/-- What a list of arguments says, or why it is refused. -/
def read (command : Command) (arguments : List String) : Except Refusal CommandLine :=
  command.readOn ⟨⟨[], []⟩, none⟩ arguments

end Command

/-! ## Looking settings up -/

/-- The value that a flag was given. -/
def Settings.find? (settings : Settings) (flag : Flag) : Option FlagValue :=
  (List.find? (fun (setting : Flag × FlagValue) => setting.1 = flag) settings).map (·.2)

/-- The number that a flag was given. -/
def Settings.single? (settings : Settings) (flag : Flag) : Option Float32 :=
  match settings.find? flag with
  | some (.single number) => some number
  | _ => none

/-- The truth value that a flag was given. -/
def Settings.boolean? (settings : Settings) (flag : Flag) : Option Bool :=
  match settings.find? flag with
  | some (.boolean truth) => some truth
  | _ => none

/-- The text that a flag was given. -/
def Settings.text? (settings : Settings) (flag : Flag) : Option String :=
  match settings.find? flag with
  | some (.text content) => some content
  | _ => none

/-- A rule in which the given flags replace the fields. -/
def Settings.rule (settings : Settings) (number : Fin 5) (rule : EndpointRule) : EndpointRule where
  mustContainNonsilence :=
    (settings.boolean? (.endpoint (.rule number .mustContainNonsilence))).getD
      rule.mustContainNonsilence
  minTrailingSilence :=
    (settings.single? (.endpoint (.rule number .minTrailingSilence))).getD rule.minTrailingSilence
  maxRelativeCost :=
    (settings.single? (.endpoint (.rule number .maxRelativeCost))).getD rule.maxRelativeCost
  minUtteranceLength :=
    (settings.single? (.endpoint (.rule number .minUtteranceLength))).getD rule.minUtteranceLength

/-- The policy in which the given flags replace the fields of the standard one. -/
def Settings.policy (settings : Settings) : EndpointPolicy where
  silencePhones :=
    (settings.text? (.endpoint .silencePhones)).getD EndpointPolicy.standard.silencePhones
  rule number := settings.rule number (EndpointPolicy.standard.rule number)

end LiveSpeech.Options
