import LiveSpeech.Proofs.CommandLine
import Mathlib.Logic.Function.Basic

/-!
# Reading a policy from what was found

A policy about endpoints has one value for every flag there is: the phones of silence, and four
fields for each of five rules (`EndpointPolicy.value`).  It is nothing but these values
(`EndpointPolicy.value_injective`), and putting one in leaves the others as they are
(`EndpointPolicy.value_of_set?`).

What the flags of a command line were found to say is put in flag by flag, beginning with the
standard policy.  That fails at a flag that the command does not have, and at a value that is not
of the type of the field (`Command.policyOf?`).  Main result: for a command line that was read by
a command with all flags about endpoints it never fails, and it makes the policy of the command
line (`Command.policyOf?_eq_some`).
-/

namespace LiveSpeech

set_option autoImplicit false

open LiveSpeech.Options

theorem Options.EndpointFlag.mem_all (flag : EndpointFlag) : flag ∈ EndpointFlag.all := by
  cases flag with
  | silencePhones => decide
  | rule number field => cases field <;> revert number <;> decide

/-! ## Values -/

/-- What a rule has for a field. -/
def EndpointRule.value (rule : EndpointRule) : RuleField → FlagValue
  | .mustContainNonsilence => .boolean rule.mustContainNonsilence
  | .minTrailingSilence => .single rule.minTrailingSilence
  | .maxRelativeCost => .single rule.maxRelativeCost
  | .minUtteranceLength => .single rule.minUtteranceLength

/-- What a policy has for a flag. -/
def EndpointPolicy.value (policy : EndpointPolicy) : EndpointFlag → FlagValue
  | .silencePhones => .text policy.silencePhones
  | .rule number field => (policy.rule number).value field

theorem EndpointRule.value_injective : Function.Injective EndpointRule.value := by
  intro one other same
  have nonsilence := FlagValue.boolean.inj (congrFun same .mustContainNonsilence)
  have trailing := FlagValue.single.inj (congrFun same .minTrailingSilence)
  have cost := FlagValue.single.inj (congrFun same .maxRelativeCost)
  have utterance := FlagValue.single.inj (congrFun same .minUtteranceLength)
  cases one
  cases other
  congr

/-- A policy is nothing but its values. -/
theorem EndpointPolicy.value_injective : Function.Injective EndpointPolicy.value := by
  intro one other same
  have phones := FlagValue.text.inj (congrFun same .silencePhones)
  have rules : one.rule = other.rule := by
    funext number
    refine EndpointRule.value_injective (funext fun field => ?_)
    exact congrFun same (.rule number field)
  cases one
  cases other
  congr

/-! ## Putting a value in -/

/-- The rule with a value for a field, if the value is of the type of the field. -/
def EndpointRule.set? (rule : EndpointRule) : RuleField → FlagValue → Option EndpointRule
  | .mustContainNonsilence, .boolean truth => some { rule with mustContainNonsilence := truth }
  | .minTrailingSilence, .single seconds => some { rule with minTrailingSilence := seconds }
  | .maxRelativeCost, .single cost => some { rule with maxRelativeCost := cost }
  | .minUtteranceLength, .single seconds => some { rule with minUtteranceLength := seconds }
  | _, _ => none

/-- The policy with a value for a flag, if the value is of the type of its field. -/
def EndpointPolicy.set? (policy : EndpointPolicy) : EndpointFlag → FlagValue → Option EndpointPolicy
  | .silencePhones, .text phones => some { policy with silencePhones := phones }
  | .silencePhones, _ => none
  | .rule number field, value => ((policy.rule number).set? field value).map fun rule =>
      { policy with rule := Function.update policy.rule number rule }

theorem EndpointRule.value_of_set? {rule next : EndpointRule} {field : RuleField}
    {value : FlagValue} (set : rule.set? field value = some next) (other : RuleField) :
    next.value other = if other = field then value else rule.value other := by
  cases field <;> cases value <;> cases set <;> cases other <;> rfl

/-- **A value is put into the field of its flag and into no other.** -/
theorem EndpointPolicy.value_of_set? {policy next : EndpointPolicy} {flag : EndpointFlag}
    {value : FlagValue} (set : policy.set? flag value = some next) (other : EndpointFlag) :
    next.value other = if other = flag then value else policy.value other := by
  cases flag with
  | silencePhones =>
    cases value <;> cases set
    cases other <;> rfl
  | rule number field =>
    obtain ⟨rule, inner, rfl⟩ := Option.map_eq_some_iff.mp set
    cases other with
    | silencePhones => rfl
    | rule number' field' =>
      by_cases same : number' = number
      · subst same
        have values := EndpointRule.value_of_set? inner field'
        simpa [EndpointPolicy.value] using values
      · simp [EndpointPolicy.value, same]

/-- What is a value of a flag is of the type of its field. -/
theorem EndpointPolicy.exists_set? (policy : EndpointPolicy) {flag : EndpointFlag}
    {content : Option String} {value : FlagValue}
    (given : (Flag.endpoint flag).kind.given? content = some value) :
    ∃ next, policy.set? flag value = some next := by
  cases flag with
  | silencePhones =>
    obtain ⟨phones, rfl⟩ := ValueKind.given?_text (.inr rfl) given
    exact ⟨_, rfl⟩
  | rule number field =>
    cases field with
    | mustContainNonsilence =>
      obtain ⟨truth, rfl⟩ := ValueKind.given?_boolean (.inr rfl) given
      exact ⟨_, rfl⟩
    | minTrailingSilence | maxRelativeCost | minUtteranceLength =>
      obtain ⟨number, rfl⟩ := ValueKind.given?_single given
      exact ⟨_, rfl⟩

/-! ## Reading what was found -/

/-- The policy with what was found for a flag put in, if anything was.  The command has to have
the flag, and the value has to be of the type of its field. -/
def Options.Command.setFound? (command : Command) (settings : Settings) (policy : EndpointPolicy)
    (flag : EndpointFlag) : Option EndpointPolicy :=
  if .endpoint flag ∈ command.flags then
    match settings.find? (.endpoint flag) with
    | none => some policy
    | some value => policy.set? flag value
  else none

/-- **The policy of what was found**: the standard one, with what was found for each flag put in
one after the other, in the order of the help. -/
def Options.Command.policyOf? (command : Command) (settings : Settings) : Option EndpointPolicy :=
  EndpointFlag.all.foldlM (command.setFound? settings) EndpointPolicy.standard

/-- What was found for a flag about endpoints is a value of its kind. -/
def Options.Settings.Typed (settings : Settings) : Prop :=
  ∀ flag value, settings.find? (.endpoint flag) = some value →
    ∃ content, (Flag.endpoint flag).kind.given? content = some value

/-- What a command reads is of the kinds of its flags. -/
theorem Options.Command.typed_of_read {command : Command} {arguments : List String}
    {line : CommandLine} (read : command.read arguments = .ok line) : line.settings.Typed :=
  fun _ _ found => ((find?_eq_some_iff read).mp found).taken

section Found

variable {command : Command} {settings : Settings}

/-- Putting in what was found for one flag does not fail, and changes one value at most. -/
theorem Options.Command.setFound?_eq_some (typed : settings.Typed) (policy : EndpointPolicy)
    {flag : EndpointFlag} (known : .endpoint flag ∈ command.flags) :
    ∃ next, command.setFound? settings policy flag = some next ∧ ∀ other, next.value other =
      if other = flag then (settings.find? (.endpoint other)).getD (policy.value other)
      else policy.value other := by
  rw [setFound?, if_pos known]
  cases found : settings.find? (.endpoint flag) with
  | none =>
    refine ⟨policy, rfl, fun other => ?_⟩
    split
    · next same => rw [same, found, Option.getD_none]
    · rfl
  | some value =>
    obtain ⟨content, given⟩ := typed flag value found
    obtain ⟨next, set⟩ := policy.exists_set? given
    refine ⟨next, set, fun other => ?_⟩
    rw [EndpointPolicy.value_of_set? set]
    split
    · next same => rw [same, found, Option.getD_some]
    · rfl

/-- Putting in what was found for several flags does not fail, and changes no value of another
flag. -/
theorem Options.Command.foldlM_setFound?_eq_some (typed : settings.Typed)
    (flags : List EndpointFlag) (known : ∀ flag ∈ flags, .endpoint flag ∈ command.flags)
    (policy : EndpointPolicy) :
    ∃ last, flags.foldlM (command.setFound? settings) policy = some last ∧
      ∀ other, last.value other =
        if other ∈ flags then (settings.find? (.endpoint other)).getD (policy.value other)
        else policy.value other := by
  induction flags generalizing policy with
  | nil => exact ⟨policy, rfl, fun other => (if_neg List.not_mem_nil).symm⟩
  | cons flag flags ih =>
    obtain ⟨first, others⟩ := List.forall_mem_cons.mp known
    obtain ⟨next, set, values⟩ := setFound?_eq_some typed policy first
    obtain ⟨last, more, values'⟩ := ih others next
    refine ⟨last, ?_, fun other => ?_⟩
    · rw [List.foldlM_cons, set]
      exact more
    · rw [values', values]
      -- A flag that comes twice has the same value put in twice.
      by_cases same : other = flag
      · subst same
        cases settings.find? (.endpoint other) <;> simp
      · simp [same]

/-- The policy of what was found has the values that were found, and the standard ones. -/
theorem Options.Settings.value_policy (typed : settings.Typed) (flag : EndpointFlag) :
    settings.policy.value flag =
      (settings.find? (.endpoint flag)).getD (EndpointPolicy.standard.value flag) := by
  cases found : settings.find? (.endpoint flag) with
  | none =>
    cases flag with
    | silencePhones => simp [policy, EndpointPolicy.value, text?, found]
    | rule number field =>
      cases field <;>
        simp [policy, rule, EndpointPolicy.value, EndpointRule.value, single?, boolean?, found]
  | some value =>
    obtain ⟨content, given⟩ := typed flag value found
    cases flag with
    | silencePhones =>
      obtain ⟨phones, rfl⟩ := ValueKind.given?_text (.inr rfl) given
      simp [policy, EndpointPolicy.value, text?, found]
    | rule number field =>
      cases field with
      | mustContainNonsilence =>
        obtain ⟨truth, rfl⟩ := ValueKind.given?_boolean (.inr rfl) given
        simp [policy, rule, EndpointPolicy.value, EndpointRule.value, boolean?, found]
      | minTrailingSilence | maxRelativeCost | minUtteranceLength =>
        obtain ⟨number, rfl⟩ := ValueKind.given?_single given
        simp [policy, rule, EndpointPolicy.value, EndpointRule.value, single?, found]

end Found

/-- **Reading a policy never fails** for a command line that was read by a command with all flags
about endpoints. -/
theorem Options.Command.policyOf?_eq_some {command : Command}
    (known : ∀ flag, .endpoint flag ∈ command.flags) {arguments : List String}
    {line : CommandLine} (read : command.read arguments = .ok line) :
    command.policyOf? line.settings = some line.settings.policy := by
  have typed := typed_of_read read
  obtain ⟨last, folded, values⟩ := foldlM_setFound?_eq_some typed EndpointFlag.all
    (fun flag _ => known flag) EndpointPolicy.standard
  have same : last = line.settings.policy := by
    refine EndpointPolicy.value_injective (funext fun flag => ?_)
    rw [values, if_pos flag.mem_all, Settings.value_policy typed]
  rw [policyOf?, folded, same]

end LiveSpeech
