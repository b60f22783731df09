import LiveSpeech.Endpoint
import LiveSpeech.Number.Decimal
import LiveSpeech.Number.Text

/-!
# The flags of a session

A flag has a name and a kind of value.  The kind fixes which texts are values, which value a
bare flag has, if it may be bare at all, and how the flag is shown to the operator.
-/

namespace LiveSpeech.Options

set_option autoImplicit false

open LiveSpeech.Number

/-- The fields of an endpoint rule. -/
inductive RuleField where
  | mustContainNonsilence
  | minTrailingSilence
  | maxRelativeCost
  | minUtteranceLength
  deriving DecidableEq, Repr

/-- The flags about the end of an utterance. -/
inductive EndpointFlag where
  | silencePhones
  | rule (number : Fin 5) (field : RuleField)
  deriving DecidableEq, Repr

inductive Flag where
  | chunkLength
  | wordSymbolTable
  | doEndpointing
  | maxFinalCost
  | outputInterval
  | endpoint (flag : EndpointFlag)
  | help
  deriving DecidableEq, Repr

inductive ValueKind where
  | single
  /-- Either `true` or `false`; bare is `true`. -/
  | strictBoolean
  /-- A word for a truth value; bare is `true`. -/
  | looseBoolean
  | path
  | text
  | nothing
  deriving DecidableEq, Repr

/-- The value that a flag was given. -/
inductive FlagValue where
  | single (number : Float32)
  | boolean (truth : Bool)
  | text (content : String)

/-! ## Names -/

/-- The name of a field of a rule. -/
def RuleField.name : RuleField → String
  | .mustContainNonsilence => "must-contain-nonsilence"
  | .minTrailingSilence => "min-trailing-silence"
  | .maxRelativeCost => "max-relative-cost"
  | .minUtteranceLength => "min-utterance-length"

/-- What the names of all flags about endpoints start with. -/
def endpointStem : String := "endpoint."

/-- The name of a flag about endpoints. -/
def EndpointFlag.name : EndpointFlag → String
  | .silencePhones => endpointStem ++ "silence-phones"
  | .rule number field =>
    endpointStem ++ "rule" ++ toString (number.val + 1) ++ "." ++ field.name

def Flag.name : Flag → String
  | .chunkLength => "chunk-length"
  | .wordSymbolTable => "word-symbol-table"
  | .doEndpointing => "do-endpointing"
  | .maxFinalCost => "max-final-cost"
  | .outputInterval => "output-interval"
  | .endpoint flag => flag.name
  | .help => "help"

/-- The fields of a rule in the order of the help. -/
def RuleField.all : List RuleField :=
  [.mustContainNonsilence, .minTrailingSilence, .maxRelativeCost, .minUtteranceLength]

/-- The flags about endpoints in the order of the help. -/
def EndpointFlag.all : List EndpointFlag :=
  .silencePhones :: ([0, 1, 2, 3, 4] : List (Fin 5)).flatMap fun number =>
    RuleField.all.map (.rule number)

/-- The flags that have a name of their own, help apart. -/
def Flag.session : List Flag :=
  [.chunkLength, .wordSymbolTable, .doEndpointing, .maxFinalCost, .outputInterval]

/-! ## Values -/

/-- The kind of value of a field of a rule. -/
def RuleField.kind : RuleField → ValueKind
  | .mustContainNonsilence => .looseBoolean
  | _ => .single

/-- The kind of value of a flag. -/
def Flag.kind : Flag → ValueKind
  | .chunkLength | .maxFinalCost | .outputInterval => .single
  | .wordSymbolTable => .path
  | .doEndpointing => .strictBoolean
  | .endpoint .silencePhones => .text
  | .endpoint (.rule _ field) => field.kind
  | .help => .nothing

/-- The value of a flag without one, if it may stand without one. -/
def ValueKind.bare? : ValueKind → Option FlagValue
  | .strictBoolean | .looseBoolean => some (.boolean true)
  | _ => none

/-- The words for true and for false, in lower case. -/
def truthWords : List String × List String :=
  (["y", "yes", "t", "true", "on", "1"], ["n", "no", "f", "false", "off", "0"])

/-- The truth value that a word in any case stands for.  No character beyond ASCII has one of
the letters of these words as its lower case, so lowering ASCII is enough. -/
def looseTruth? (word : String) : Option Bool :=
  let lowered := String.ofList (word.toList.map Char.toLower)
  if lowered ∈ truthWords.1 then some true
  else if lowered ∈ truthWords.2 then some false
  else none

/-- The value that a text is for a kind of flag. -/
def ValueKind.read? (kind : ValueKind) (content : String) : Option FlagValue :=
  match kind with
  | .single => (Literal.parse? content).map fun literal => .single (literal.value Float32)
  | .strictBoolean =>
    if content = "true" then some (.boolean true)
    else if content = "false" then some (.boolean false)
    else none
  | .looseBoolean => (looseTruth? content).map .boolean
  | .path => if content.isEmpty then none else some (.text content)
  | .text => some (.text content)
  | .nothing => none

/-! ## How a flag is shown -/

/-- What stands for the value of a flag. -/
def Flag.valueName : Flag → String
  | .chunkLength | .outputInterval => "SECS"
  | .wordSymbolTable => "PATH"
  | .doEndpointing => "BOOL"
  | .maxFinalCost => "COST"
  | .endpoint .silencePhones => "LIST"
  | .endpoint (.rule _ .mustContainNonsilence) => "BOOL"
  | .endpoint (.rule _ .maxRelativeCost) => "COST"
  | .endpoint (.rule _ _) => "SECS"
  | .help => ""

/-- A flag with what stands for its value; brackets around what may be left out. -/
def Flag.shown (flag : Flag) : String :=
  let named := "--" ++ flag.name
  match flag.kind with
  | .nothing => named
  | .strictBoolean | .looseBoolean => named ++ "[=<" ++ flag.valueName ++ ">]"
  | _ => named ++ "=<" ++ flag.valueName ++ ">"

def truthText (truth : Bool) : String := if truth then "true" else "false"

/-- The texts that are offered as values of a truth value. -/
def offeredTruths : List String := ["true", "false"]

/-- The offered values of a flag. -/
def offered : String := "[possible values: " ++ ", ".intercalate offeredTruths ++ "]"

/-- What a field of a rule is for, and its default. -/
def RuleField.help (field : RuleField) (rule : EndpointRule) : String :=
  match field with
  | .mustContainNonsilence => "only fire if some non-silence was decoded (default " ++
      truthText rule.mustContainNonsilence ++ ") " ++ offered
  | .minTrailingSilence => "seconds of trailing silence required (default " ++
      plain rule.minTrailingSilence ++ ")"
  | .maxRelativeCost => "highest final relative cost allowed (default " ++
      plain rule.maxRelativeCost ++ ")"
  | .minUtteranceLength => "seconds of decoded audio required (default " ++
      plain rule.minUtteranceLength ++ ")"

end LiveSpeech.Options
