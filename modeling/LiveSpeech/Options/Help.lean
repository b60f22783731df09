import LiveSpeech.Options.Command
import LiveSpeech.Text.Terminal

/-!
# What the operator is told about a command line

The help of a command lists its positional arguments and flags.  A refusal names what is
wrong and, where that helps, what could have been meant and how the command is used.
-/

namespace LiveSpeech.Options

set_option autoImplicit false

open LiveSpeech.Text

/-! ## Help -/

/-- What a flag is for, with its default and its possible values. -/
def Flag.purpose : Flag → String
  | .chunkLength => "Length of chunk size in seconds that we process [default: 0.18]"
  | .wordSymbolTable => "Symbol table for words"
  | .doEndpointing => "If true, apply endpoint detection [default: true] " ++ offered
  | .maxFinalCost =>
    "Utterances whose final relative cost exceeds this produce an empty transcript [default: 8]"
  | .outputInterval =>
    "Seconds of audio between partial outputs and endpoint checks [default: 1]"
  | .endpoint .silencePhones => "Colon-separated list of integer ids of silence phones"
  | .endpoint (.rule number field) =>
    "Rule " ++ toString (number.val + 1) ++ ": " ++ field.help (EndpointRule.standard number)
  | .help => "Print help"

/-- The entry of a flag in the help. -/
def Flag.entry (flag : Flag) : String :=
  let label := match flag with
    | .help => "  -h, --help"
    | flag => "      " ++ flag.shown
  label ++ "\n          " ++ flag.purpose ++ "\n"

/-- A text with blanks behind it up to a width. -/
def padded (width : Nat) (text : String) : String :=
  text ++ String.ofList (List.replicate (width - text.length) ' ')

/-- The entries of the positional arguments in the help, if there are any. -/
def Command.positionalHelp (command : Command) : String :=
  match command.positionals with
  | [] => ""
  | positionals =>
    let width := (positionals.map fun positional => positional.shown.length).foldl max 0
    let entry (positional : Positional) : String :=
      "  " ++ padded width positional.shown ++ "  " ++ positional.help ++ "\n"
    "Arguments:\n" ++ String.join (positionals.map entry) ++ "\n"

/-- The required flags and the positional arguments, with flags before and between them. -/
def Command.usageWith (command : Command) (before between : List String) : String :=
  " ".intercalate (["Usage:", command.name] ++ before ++ command.required.map Flag.shown ++
    between ++ command.positionals.map Positional.shown)

/-- How the command is used in general. -/
def Command.usage (command : Command) : String := command.usageWith ["[OPTIONS]"] []

/-- How the command is used with certain flags. -/
def Command.usageOf (command : Command) (used : List Flag) : String :=
  command.usageWith [] ((used.filter fun flag => flag ∉ command.required).map Flag.shown)

/-- How the command is used after what was used already, or in general if that is nothing. -/
def Command.usageOrGeneral (command : Command) (used : Used) : String :=
  if used.flags.isEmpty && !used.positional then command.usage else command.usageOf used.flags

/-- The group of flags and positional arguments, as alternatives. -/
def Command.alternatives (command : Command) : String :=
  "<" ++ "|".intercalate (command.grouped.map Flag.shown ++
    command.positionals.map Positional.name) ++ ">"

/-- How the command is used after what was used already.  If a member of the group is among
it, the group stands for all its members, required ones too. -/
def Command.usageOrGroup (command : Command) (used : Used) : String :=
  if used.positional || used.flags.any (· ∈ command.grouped) then
    " ".intercalate (["Usage:", command.name] ++
      (used.flags.filter fun flag => flag ∉ command.grouped).map Flag.shown ++
      [command.alternatives])
  else command.usageOf used.flags

/-- The help of the command. -/
def Command.help (command : Command) : String :=
  let about := match command.about with
    | some text => text ++ "\n\n"
    | none => ""
  about ++ command.usage ++ "\n\n" ++ command.positionalHelp ++ "Options:\n" ++
    String.join (command.flags.map Flag.entry)

/-! ## Refusals -/

/-- The last lines of every refusal. -/
def seeHelp : String := "\n\nFor more information, try '--help'.\n"

/-- A text between single quotes, as a terminal may show it. -/
def inQuotes (text : String) : String := "'" ++ displayed text ++ "'"

/-- The wording that a text is no value of a flag. -/
def badValueText (flag : Flag) (value : String) : String :=
  let label := "error: invalid value " ++ inQuotes value ++ " for " ++ inQuotes flag.shown
  let noValue := "error: a value is required for " ++ inQuotes flag.shown ++
    " but none was supplied"
  match flag.kind with
  | .single =>
    if value.isEmpty then label ++ ": cannot parse float from empty string"
    else label ++ ": invalid float literal"
  | .looseBoolean => label ++ ": value was not a boolean"
  | .strictBoolean =>
    let guess := match mostSimilar? value offeredTruths with
      | some similar => "\n\n  tip: a similar value exists: " ++ inQuotes similar
      | none => ""
    (if value.isEmpty then noValue else label) ++ "\n  " ++ offered ++ guess
  | .path | .text | .nothing => noValue

/-- The tip how an argument that looks like a flag is passed as a value, where there are
positional arguments. -/
def Command.valueTip (command : Command) (argument : String) : String :=
  if command.positionals.isEmpty then ""
  else "\n\n  tip: to pass " ++ inQuotes argument ++ " as a value, use " ++
    inQuotes ("-- " ++ argument)

/-- What is used once a flag is too. -/
def Used.adding (used : Used) (flag : Flag) : Used :=
  if flag ∈ used.flags then used else { used with flags := used.flags ++ [flag] }

def Command.refusalText (command : Command) : Refusal → String
  | .help => command.help
  | .valueMissing flag =>
    "error: equal sign is needed when assigning values to " ++ inQuotes flag.shown ++
      "\n\n" ++ command.usage ++ seeHelp
  | .repeated flag =>
    "error: the argument " ++ inQuotes flag.shown ++ " cannot be used multiple times\n\n" ++
      command.usage ++ seeHelp
  | .badValue flag value => badValueText flag value ++ seeHelp
  | .emptyPositional positional =>
    "error: a value is required for " ++ inQuotes positional.shown ++
      " but none was supplied" ++ seeHelp
  | .extraPositional value =>
    "error: unexpected argument " ++ inQuotes value ++ " found\n\n" ++ command.usage ++ seeHelp
  | .unknownLetter letter =>
    let argument := String.ofList ['-', letter]
    "error: unexpected argument " ++ inQuotes argument ++ " found" ++
      command.valueTip argument ++ "\n\n" ++ command.usage ++ seeHelp
  | .unknownFlag name similar used =>
    let argument := "--" ++ name
    let label := "error: unexpected argument " ++ inQuotes argument ++ " found"
    match similar with
    | some flag =>
      label ++ "\n\n  tip: a similar argument exists: " ++ inQuotes ("--" ++ flag.name) ++
        "\n\n" ++ command.usageOrGeneral (used.adding flag) ++ seeHelp
    | none =>
      label ++ command.valueTip argument ++ "\n\n" ++ command.usageOrGeneral used ++ seeHelp
  | .needlessValue flag value used =>
    "error: unexpected value " ++ inQuotes value ++ " for " ++ inQuotes flag.shown ++
      " found; no more were expected\n\n" ++ command.usageOrGroup (used.adding flag) ++ seeHelp
  | .missing flags positionals used =>
    "error: the following required arguments were not provided:" ++
      String.join ((flags.map Flag.shown ++ positionals.map Positional.shown).map ("\n  " ++ ·)) ++
      "\n\n" ++ command.usageOf used ++ seeHelp

end LiveSpeech.Options
