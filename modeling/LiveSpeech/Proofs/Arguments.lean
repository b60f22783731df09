import LiveSpeech.Options.Command
import Mathlib.Data.List.Nodup
import Mathlib.Data.List.Perm.Basic
import Mathlib.Data.List.TakeWhile

/-!
# The grammar of arguments

An argument gives a flag a value if it is `--name=value` with a text that is a value of the kind
of the flag, or `--name` alone for a flag that may stand alone (`Command.Gives`).  An argument is
positional if it is a lone dash or does not start with a dash (`IsPositional`).  Up to the first
lone `--` every argument has to be the one or the other; behind it, whatever it looks like, it is
positional.  What arguments yield for a flag is the value that they set it to, or else its default
(`Command.Yields`).

The two forms do not overlap, and an argument gives one flag one value (`Command.Gives.unique`).
This rests on the names of the flags, which differ and have no sign of equality in them.
-/

namespace LiveSpeech.Options

set_option autoImplicit false

/-! ## Names -/

/-- Every flag there is. -/
def Flag.all : List Flag := Flag.session ++ EndpointFlag.all.map Flag.endpoint ++ [Flag.help]

theorem Flag.mem_all (flag : Flag) : flag ∈ Flag.all := by
  cases flag with
  | endpoint flag =>
    cases flag with
    | silencePhones => decide
    | rule number field => cases field <;> revert number <;> decide
  | _ => decide

/-- Two flags do not share a name. -/
theorem Flag.name_injective : Function.Injective Flag.name := by
  have distinct : (Flag.all.map Flag.name).Nodup := by decide +kernel
  intro one other alike
  exact List.inj_on_of_nodup_map distinct one.mem_all other.mem_all alike

/-- A name is not empty, and no sign of equality is in it. -/
theorem Flag.name_plain (flag : Flag) : flag.name ≠ "" ∧ '=' ∉ flag.name.toList := by
  have plain : ∀ flag ∈ Flag.all, flag.name ≠ "" ∧ '=' ∉ flag.name.toList := by decide +kernel
  exact plain flag flag.mem_all

theorem Command.flag?_eq_some_iff {command : Command} {name : String} {flag : Flag} :
    command.flag? name = some flag ↔ flag ∈ command.flags ∧ flag.name = name := by
  constructor
  · intro found
    exact ⟨List.mem_of_find?_eq_some found, by simpa using List.find?_some found⟩
  · rintro ⟨known, rfl⟩
    cases found : command.flag? flag.name with
    | none => simpa using List.find?_eq_none.mp found flag known
    | some other =>
      have alike : other.name = flag.name := by simpa using List.find?_some found
      rw [Flag.name_injective alike]

/-! ## The forms of an argument -/

/-- A flag is cut at its first sign of equality. -/
theorem splitValue_eq_iff {flag name : List Char} {value : Option (List Char)} :
    splitValue flag = (name, value) ↔
      '=' ∉ name ∧ flag = name ++ value.elim [] ('=' :: ·) := by
  constructor
  · have plain : '=' ∉ flag.takeWhile (· ≠ '=') := fun inside => by
      simpa using List.mem_takeWhile_imp inside
    have whole : flag.takeWhile (· ≠ '=') ++ flag.dropWhile (· ≠ '=') = flag :=
      List.takeWhile_append_dropWhile
    intro cut
    rw [splitValue] at cut
    cases behind : flag.dropWhile (· ≠ '=') with
    | nil =>
      rw [behind] at cut whole
      obtain ⟨rfl, rfl⟩ := Prod.mk.inj cut
      rw [List.append_nil] at whole
      rw [whole] at plain
      exact ⟨plain, by simp⟩
    | cons sign rest =>
      have sign_eq : sign = '=' := by
        have first := List.head?_dropWhile_not (· ≠ '=') flag
        rw [behind] at first
        simpa using first
      rw [behind] at cut whole
      obtain ⟨rfl, rfl⟩ := Prod.mk.inj cut
      rw [sign_eq] at whole
      exact ⟨plain, whole.symm⟩
  · rintro ⟨plain, rfl⟩
    have others : ∀ letter ∈ name, decide (letter ≠ '=') = true := by
      intro letter inside
      exact decide_eq_true fun sign => plain (sign ▸ inside)
    rw [splitValue, List.dropWhile_append_of_pos others, List.takeWhile_append_of_pos others]
    cases value <;> simp

/-- An argument that is no flag: a lone dash, or any text that does not start with a dash. -/
def IsPositional (text : String) : Prop := text = "-" ∨ text.toList.head? ≠ some '-'

instance : DecidablePred IsPositional := fun _ => inferInstanceAs (Decidable (_ ∨ _))

/-- The text of a flag with its name and, behind a sign of equality, its value. -/
def flagText (name : String) (value : Option String) : String :=
  "--" ++ name ++ value.elim "" ("=" ++ ·)

theorem Argument.ofText_eq_separator_iff {text : String} :
    Argument.ofText text = .separator ↔ text = "--" := by
  rw [Argument.ofText, ← String.toList_inj]
  split <;> simp_all

theorem Argument.ofText_eq_positional_iff {text content : String} :
    Argument.ofText text = .positional content ↔ content = text ∧ IsPositional text := by
  have dash : text = "-" ↔ text.toList = ['-'] := String.toList_inj.symm
  rw [Argument.ofText, IsPositional, dash]
  generalize text.toList = letters
  split
  case h_5 notDash notLetter =>
    have other : letters.head? ≠ some '-' := by
      intro first
      obtain ⟨rest, rfl⟩ := List.head?_eq_some_iff.mp first
      cases rest with
      | nil => exact notDash rfl
      | cons letter rest => exact notLetter letter rest rfl
    simp [other, eq_comm]
  all_goals simp [eq_comm]

/-- An argument is a flag of a name if it is written as one. -/
theorem Argument.ofText_eq_long_iff {text name : String} {value : Option String} :
    Argument.ofText text = .long name value ↔
      text ≠ "--" ∧ '=' ∉ name.toList ∧ text = flagText name value := by
  have written : text = flagText name value ↔ text.toList =
      '-' :: '-' :: (name.toList ++ (value.map String.toList).elim [] ('=' :: ·)) := by
    rw [← String.toList_inj]
    cases value <;> simp [flagText]
  have alone : text = "--" ↔ text.toList = ['-', '-'] := String.toList_inj.symm
  rw [written, ne_eq, alone, Argument.ofText]
  generalize text.toList = letters
  split
  case h_2 flag more =>
    have longer : flag ≠ [] := more
    have texts : ∀ cut : List Char × Option (List Char),
        Argument.long (String.ofList cut.1) (cut.2.map String.ofList) = .long name value ↔
          cut = (name.toList, value.map String.toList) := by
      rintro ⟨found, content⟩
      have named : String.ofList found = name ↔ found = name.toList := by
        rw [← String.toList_inj, String.toList_ofList]
      cases value <;> cases content <;>
        simp [named, ← String.toList_inj, String.toList_ofList]
    have splits : splitValue flag = (name.toList, value.map String.toList) ↔
        '=' ∉ name.toList ∧
          flag = name.toList ++ (value.map String.toList).elim [] ('=' :: ·) :=
      splitValue_eq_iff
    simpa [longer, splits] using texts (splitValue flag)
  all_goals simp_all

/-! ## Flags with their values -/

/-- **An argument gives a flag a value.** -/
inductive Command.Gives (command : Command) : String → Flag → FlagValue → Prop where
  /-- The flag and a text that is a value of its kind. -/
  | valued {flag : Flag} {content : String} {value : FlagValue} (known : flag ∈ command.flags)
      (taken : flag.kind.read? content = some value) :
      Gives command ("--" ++ flag.name ++ "=" ++ content) flag value
  /-- A flag that may stand alone. -/
  | bare {flag : Flag} {value : FlagValue} (known : flag ∈ command.flags)
      (taken : flag.kind.bare? = some value) : Gives command ("--" ++ flag.name) flag value

/-- The value of a flag that is written with a text or without. -/
def ValueKind.given? (kind : ValueKind) (content : Option String) : Option FlagValue :=
  content.elim kind.bare? kind.read?

section Kinds

variable {kind : ValueKind} {content : Option String} {value : FlagValue}

theorem ValueKind.given?_single (taken : ValueKind.single.given? content = some value) :
    ∃ number, value = .single number := by
  cases content with
  | none => cases taken
  | some text =>
    obtain ⟨literal, -, rfl⟩ := Option.map_eq_some_iff.mp taken
    exact ⟨_, rfl⟩

theorem ValueKind.given?_boolean (boolean : kind = .strictBoolean ∨ kind = .looseBoolean)
    (taken : kind.given? content = some value) : ∃ truth, value = .boolean truth := by
  cases content with
  | none => rcases boolean with rfl | rfl <;> exact ⟨true, (Option.some.inj taken).symm⟩
  | some text =>
    rcases boolean with rfl | rfl
    · simp only [given?, Option.elim_some, read?] at taken
      split at taken
      · exact ⟨true, (Option.some.inj taken).symm⟩
      · split at taken
        · exact ⟨false, (Option.some.inj taken).symm⟩
        · cases taken
    · obtain ⟨truth, -, rfl⟩ := Option.map_eq_some_iff.mp taken
      exact ⟨truth, rfl⟩

theorem ValueKind.given?_text (text : kind = .path ∨ kind = .text)
    (taken : kind.given? content = some value) : ∃ found, value = .text found := by
  cases content with
  | none => rcases text with rfl | rfl <;> cases taken
  | some found =>
    rcases text with rfl | rfl
    · simp only [given?, Option.elim_some, read?] at taken
      split at taken
      · cases taken
      · exact ⟨found, (Option.some.inj taken).symm⟩
    · exact ⟨found, (Option.some.inj taken).symm⟩

/-- A path is not empty. -/
theorem ValueKind.given?_path {path : String}
    (taken : ValueKind.path.given? content = some (.text path)) : path ≠ "" := by
  cases content with
  | none => cases taken
  | some found =>
    simp only [given?, Option.elim_some, read?] at taken
    split at taken
    · cases taken
    · next filled =>
      obtain rfl := FlagValue.text.inj (Option.some.inj taken)
      simpa using filled

end Kinds

/-- Which flags are given is seen from the form of an argument. -/
theorem Command.gives_iff {command : Command} {text : String} {flag : Flag} {value : FlagValue} :
    command.Gives text flag value ↔ ∃ name content, Argument.ofText text = .long name content ∧
      command.flag? name = some flag ∧ flag.kind.given? content = some value := by
  simp only [Argument.ofText_eq_long_iff, flag?_eq_some_iff]
  constructor
  · rintro (⟨known, taken⟩ | ⟨known, taken⟩)
    case valued content =>
      refine ⟨flag.name, some content, ⟨?_, flag.name_plain.2, ?_⟩, ⟨known, rfl⟩, taken⟩
      · intro alone
        have lengths := congrArg String.length alone
        simp only [String.length_append] at lengths
        have two : "--".length = 2 := rfl
        have one : "=".length = 1 := rfl
        omega
      · simp [flagText, String.append_assoc]
    case bare =>
      refine ⟨flag.name, none, ⟨?_, flag.name_plain.2, ?_⟩, ⟨known, rfl⟩, taken⟩
      · simp [flag.name_plain.1]
      · simp [flagText]
  · rintro ⟨name, content, ⟨-, -, rfl⟩, ⟨known, rfl⟩, taken⟩
    cases content with
    | none => simpa [flagText] using Gives.bare known taken
    | some content => simpa [flagText, String.append_assoc] using Gives.valued known taken

/-- An argument gives one flag one value. -/
theorem Command.Gives.unique {command : Command} {text : String} {flag other : Flag}
    {value value' : FlagValue} (gives : command.Gives text flag value)
    (again : command.Gives text other value') : other = flag ∧ value' = value := by
  obtain ⟨name, content, form, found, taken⟩ := gives_iff.mp gives
  obtain ⟨name', content', form', found', taken'⟩ := gives_iff.mp again
  obtain ⟨rfl, rfl⟩ := Argument.long.inj (form.symm.trans form')
  obtain rfl := Option.some.inj (found.symm.trans found')
  exact ⟨rfl, Option.some.inj (taken'.symm.trans taken)⟩

theorem Command.Gives.not_positional {command : Command} {text : String} {flag : Flag}
    {value : FlagValue} (gives : command.Gives text flag value) : ¬IsPositional text := by
  intro positional
  obtain ⟨name, content, form, -⟩ := gives_iff.mp gives
  have other := Argument.ofText_eq_positional_iff.mpr ⟨rfl, positional⟩
  rw [form] at other
  cases other

/-- Arguments that give flags their values, one after the other. -/
abbrev Command.GiveAll (command : Command) (texts : List String) (settings : Settings) : Prop :=
  List.Forall₂ (fun text setting => command.Gives text setting.1 setting.2) texts settings

/-- The first of the arguments gives the first of the settings. -/
theorem Command.Gives.giveAll_cons_iff {command : Command} {text : String} {flag : Flag}
    {value : FlagValue} (gives : command.Gives text flag value) {texts : List String}
    {Holds : Settings → Prop} :
    (∃ settings, command.GiveAll (text :: texts) settings ∧ Holds settings) ↔
      ∃ settings, command.GiveAll texts settings ∧ Holds ((flag, value) :: settings) := by
  constructor
  · rintro ⟨_, given, holds⟩
    obtain ⟨⟨other, value'⟩, settings, first, others, rfl⟩ := List.forall₂_cons_left_iff.mp given
    obtain ⟨rfl, rfl⟩ := gives.unique first
    exact ⟨settings, others, holds⟩
  · rintro ⟨settings, given, holds⟩
    exact ⟨_, .cons gives given, holds⟩

/-- An argument that is no flag of the command cannot stand where flags have to. -/
theorem Command.not_giveAll_cons {command : Command} {text : String} {texts : List String}
    {settings : Settings} (unfit : ∀ flag value, ¬command.Gives text flag value) :
    ¬command.GiveAll (text :: texts) settings := by
  intro given
  obtain ⟨setting, -, first, -⟩ := List.forall₂_cons_left_iff.mp given
  exact unfit _ _ first

/-! ## Where arguments stand -/

/-- The arguments before the first lone `--`. -/
def inFront (arguments : List String) : List String := arguments.takeWhile (· ≠ "--")

/-- The arguments before the first lone `--` that have to be flags. -/
def flagTexts (arguments : List String) : List String :=
  (inFront arguments).filter fun argument => ¬IsPositional argument

/-- The positional arguments: those in front of the first lone `--`, and all behind it. -/
def positionalTexts (arguments : List String) : List String :=
  (inFront arguments).filter (fun argument => IsPositional argument) ++
    (arguments.dropWhile (· ≠ "--")).drop 1

section Cons

variable {text : String} {rest : List String}

theorem flagTexts_separator : flagTexts ("--" :: rest) = [] := by
  simp [flagTexts, inFront]

theorem positionalTexts_separator : positionalTexts ("--" :: rest) = rest := by
  simp [positionalTexts, inFront]

theorem flagTexts_positional (positional : IsPositional text) :
    flagTexts (text :: rest) = flagTexts rest := by
  have other : text ≠ "--" := by
    rintro rfl
    exact absurd positional (by decide)
  simp [flagTexts, inFront, other, positional]

theorem positionalTexts_positional (positional : IsPositional text) :
    positionalTexts (text :: rest) = text :: positionalTexts rest := by
  have other : text ≠ "--" := by
    rintro rfl
    exact absurd positional (by decide)
  simp [positionalTexts, inFront, other, positional]

theorem flagTexts_flag (other : text ≠ "--") (flag : ¬IsPositional text) :
    flagTexts (text :: rest) = text :: flagTexts rest := by
  simp [flagTexts, inFront, other, flag]

theorem positionalTexts_flag (other : text ≠ "--") (flag : ¬IsPositional text) :
    positionalTexts (text :: rest) = positionalTexts rest := by
  simp [positionalTexts, inFront, other, flag]

end Cons

/-! ## What flags are set to -/

/-- Arguments set a flag to a value if one of those before the first lone `--` gives it. -/
def Command.Sets (command : Command) (arguments : List String) (flag : Flag)
    (value : FlagValue) : Prop :=
  ∃ argument ∈ inFront arguments, command.Gives argument flag value

/-- No two arguments give the same flag. -/
def Command.GiveOnce (command : Command) (texts : List String) : Prop :=
  texts.Pairwise fun one other => ∀ flag value value',
    command.Gives one flag value → ¬command.Gives other flag value'

/-- **What arguments yield for a flag**: the value that they set it to, or its default if they do
not set it. -/
def Command.Yields {Content : Type} (command : Command) (arguments : List String) (flag : Flag)
    (wrap : Content → FlagValue) (standard content : Content) : Prop :=
  command.Sets arguments flag (wrap content) ∨
    (∀ value, ¬command.Sets arguments flag value) ∧ content = standard

section Sets

variable {command : Command} {arguments texts : List String} {settings : Settings} {flag : Flag}
  {value : FlagValue}

theorem Command.sets_iff :
    command.Sets arguments flag value ↔
      ∃ text ∈ flagTexts arguments, command.Gives text flag value := by
  constructor
  · rintro ⟨text, inside, gives⟩
    exact ⟨text, List.mem_filter.mpr ⟨inside, by simpa using gives.not_positional⟩, gives⟩
  · rintro ⟨text, inside, gives⟩
    exact ⟨text, List.mem_of_mem_filter inside, gives⟩

/-- All arguments give values as soon as each gives one. -/
theorem Command.exists_giveAll_iff :
    (∃ settings, command.GiveAll texts settings) ↔
      ∀ text ∈ texts, ∃ flag value, command.Gives text flag value := by
  induction texts with
  | nil => simp
  | cons text texts hypothesis =>
    rw [List.forall_mem_cons, ← hypothesis]
    constructor
    · rintro ⟨_, given⟩
      obtain ⟨setting, settings, first, others, rfl⟩ := List.forall₂_cons_left_iff.mp given
      exact ⟨⟨_, _, first⟩, settings, others⟩
    · rintro ⟨⟨flag, value, gives⟩, settings, others⟩
      exact ⟨(flag, value) :: settings, .cons gives others⟩

theorem Command.GiveAll.mem_iff (given : command.GiveAll texts settings) :
    (flag, value) ∈ settings ↔ ∃ text ∈ texts, command.Gives text flag value := by
  induction given with
  | nil => simp
  | @cons text setting texts settings first others hypothesis =>
    rw [List.mem_cons, hypothesis, List.exists_mem_cons_iff]
    refine or_congr_left ⟨?_, fun gives => ?_⟩
    · rintro rfl
      exact first
    · obtain ⟨same, alike⟩ := gives.unique first
      exact Prod.ext same.symm alike.symm

/-- No flag is set twice if and only if no two arguments give it. -/
theorem Command.GiveAll.nodup_iff (given : command.GiveAll texts settings) :
    (settings.map (·.1)).Nodup ↔ command.GiveOnce texts := by
  induction given with
  | nil => simp [GiveOnce]
  | @cons text setting texts settings first others hypothesis =>
    have fresh : setting.1 ∉ settings.map (·.1) ↔
        ∀ other ∈ texts, ∀ flag value value',
          command.Gives text flag value → ¬command.Gives other flag value' := by
      constructor
      · intro absent other inside flag value value' gives again
        obtain ⟨rfl, -⟩ := gives.unique first
        have found := (mem_iff others).mpr ⟨other, inside, again⟩
        exact absent (List.mem_map.mpr ⟨_, found, rfl⟩)
      · intro once inside
        obtain ⟨⟨flag, value⟩, found, same⟩ := List.mem_map.mp inside
        obtain ⟨other, among, gives⟩ := (mem_iff others).mp found
        exact once other among setting.1 setting.2 value first (same ▸ gives)
    rw [List.map_cons, List.nodup_cons, fresh, hypothesis, GiveOnce, GiveOnce, List.pairwise_cons]

theorem Settings.find?_eq_some_iff (once : (settings.map (·.1)).Nodup) :
    settings.find? flag = some value ↔ (flag, value) ∈ settings := by
  rw [find?, Option.map_eq_some_iff]
  constructor
  · rintro ⟨setting, found, rfl⟩
    have same : setting.1 = flag := by simpa using List.find?_some found
    exact same ▸ List.mem_of_find?_eq_some found
  · intro inside
    cases found : List.find? (fun setting => decide (setting.1 = flag)) settings with
    | none => simpa using List.find?_eq_none.mp found _ inside
    | some setting =>
      have same : setting.1 = flag := by simpa using List.find?_some found
      have alike := List.inj_on_of_nodup_map once (List.mem_of_find?_eq_some found) inside same
      exact ⟨setting, rfl, congrArg Prod.snd alike⟩

end Sets

end LiveSpeech.Options
