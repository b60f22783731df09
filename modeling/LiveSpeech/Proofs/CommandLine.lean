import LiveSpeech.Proofs.Arguments

/-!
# Reading a command line against its grammar

A command line is complete if no flag is given twice, no positional argument is missing, empty or
too many, and the flags that have to be there are (`Command.Complete`).

Main result: exactly the complete command lines are read, each as its flags with their values and
its positional arguments, both in their order (`Command.read_eq_ok_iff`).  The reader goes from
left to right and takes a positional argument in with a delay.  What carries the induction is that
what was read so far has nothing in it that no complete command line has (`Command.Allows`), and
that a step succeeds exactly if this is still so behind it.
-/

namespace LiveSpeech.Options

set_option autoImplicit false

/-! ## Complete command lines -/

/-- **A command line is complete**: no flag is given twice, the positional arguments are as many
as the command has and none is empty, and the flags that have to be there are. -/
structure Command.Complete (command : Command) (line : CommandLine) : Prop where
  once : line.given.Nodup
  count : line.positionals.length = command.positionals.length
  filled : "" ∉ line.positionals
  required : ∀ flag ∈ command.required, flag ∈ line.given

/-- What has been read so far has nothing in it that no complete command line has.  Whether a
positional argument that has not been taken in is empty, is not looked at yet. -/
structure Command.Allows (command : Command) (progress : Progress) : Prop where
  once : progress.line.given.Nodup
  count : progress.line.positionals.length + progress.pending.toList.length ≤
    command.positionals.length
  filled : "" ∉ progress.line.positionals

/-- The command line if flags and positional arguments follow what has been read. -/
def Progress.followed (progress : Progress) (settings : Settings) (positionals : List String) :
    CommandLine :=
  ⟨progress.line.settings ++ settings,
    progress.line.positionals ++ progress.pending.toList ++ positionals⟩

theorem throw_eq_error {Answer : Type} (refusal : Refusal) :
    (throw refusal : Except Refusal Answer) = .error refusal := rfl

theorem bind_eq_ok_iff {Failure First Last : Type} {first : Except Failure First}
    {rest : First → Except Failure Last} {last : Last} :
    first.bind rest = .ok last ↔ ∃ middle, first = .ok middle ∧ rest middle = .ok last := by
  cases first <;> simp [Except.bind]

/-- What follows what followed. -/
theorem Progress.followed_followed (progress : Progress) (first more : Settings)
    (pending : Option String) (positionals : List String) :
    (Progress.mk (progress.followed first []) pending).followed more positionals =
      progress.followed (first ++ more) (pending.toList ++ positionals) := by
  simp [followed]

section Steps

variable {command : Command} {progress next : Progress} {line : CommandLine}

/-- A part of a complete command line is allowed. -/
theorem Command.Complete.allows {settings : Settings} {positionals : List String}
    (complete : command.Complete (progress.followed settings positionals)) :
    command.Allows progress where
  once := by
    have once := complete.once
    rw [CommandLine.given, Progress.followed, List.map_append] at once
    exact (List.nodup_append.mp once).1
  count := by
    have count := complete.count
    simp only [Progress.followed, List.length_append] at count
    omega
  filled := fun inside => complete.filled (by simp [Progress.followed, inside])

/-- Only an empty positional argument is not taken in. -/
theorem Command.settle_eq_ok_iff (allows : command.Allows progress) :
    command.settle progress = .ok line ↔
      line = progress.followed [] [] ∧ "" ∉ progress.pending.toList := by
  obtain ⟨read, pending⟩ := progress
  cases pending with
  | none => simp [settle, Progress.followed, eq_comm]
  | some content =>
    have count : read.positionals.length < command.positionals.length := by
      simpa [Nat.succ_le_iff] using allows.count
    have found := List.getElem?_eq_getElem count
    simp only [settle, found]
    cases blank : content.isEmpty with
    | true =>
      have empty : content = "" := by simpa using blank
      simp [empty]
    | false =>
      have filled : content ≠ "" := by simpa using blank
      simp [filled.symm, Progress.followed, eq_comm]

/-- A flag may follow if it was not given before and nothing empty waits to be taken in. -/
theorem Command.Allows.setting_iff (allows : command.Allows progress) {flag : Flag}
    {value : FlagValue} :
    command.Allows ⟨progress.followed [(flag, value)] [], none⟩ ↔
      "" ∉ progress.pending.toList ∧ flag ∉ progress.line.given := by
  have given : (progress.followed [(flag, value)] []).given = progress.line.given ++ [flag] := by
    simp [Progress.followed, CommandLine.given]
  constructor
  · intro next
    have once := next.once
    have filled := next.filled
    rw [given, List.nodup_append] at once
    refine ⟨fun inside => filled (by simp [Progress.followed, inside]), fun inside => ?_⟩
    exact once.2.2 flag inside flag (List.mem_singleton_self flag) rfl
  · rintro ⟨filled, fresh⟩
    refine ⟨?_, ?_, ?_⟩
    · rw [given]
      exact List.nodup_append.mpr ⟨allows.once, List.nodup_singleton flag, by grind⟩
    · simpa [Progress.followed] using allows.count
    · simpa [Progress.followed] using ⟨allows.filled, by simpa using filled⟩

/-- A positional argument may follow if there is a place for it and nothing empty waits to be
taken in. -/
theorem Command.Allows.positional_iff (allows : command.Allows progress) {content : String} :
    command.Allows ⟨progress.followed [] [], some content⟩ ↔
      "" ∉ progress.pending.toList ∧
        progress.line.positionals.length + progress.pending.toList.length <
          command.positionals.length := by
  constructor
  · intro next
    have filled := next.filled
    have count := next.count
    simp only [Progress.followed, List.append_nil, List.mem_append, not_or, List.length_append,
      Option.toList_some, List.length_singleton] at filled count
    exact ⟨filled.2, count⟩
  · rintro ⟨filled, count⟩
    refine ⟨?_, ?_, ?_⟩
    · simpa [Progress.followed, CommandLine.given] using allows.once
    · simpa [Progress.followed] using Nat.succ_le_of_lt count
    · simpa [Progress.followed] using ⟨allows.filled, by simpa using filled⟩

/-- A flag with a value is taken in exactly if what was read with it is still allowed. -/
theorem Command.addFlag_eq_ok_iff (allows : command.Allows progress) {flag : Flag}
    {value : FlagValue} :
    command.addFlag progress flag (.ok value) = .ok next ↔
      next = ⟨progress.followed [(flag, value)] [], none⟩ ∧ command.Allows next := by
  have settled : (progress.followed [] []).given = progress.line.given := by
    simp [Progress.followed, CommandLine.given]
  have added : command.addFlag progress flag (.ok value) = .ok next ↔
      next = ⟨progress.followed [(flag, value)] [], none⟩ ∧
        "" ∉ progress.pending.toList ∧ flag ∉ progress.line.given := by
    simp only [addFlag, bind, bind_eq_ok_iff, settle_eq_ok_iff allows, and_assoc,
      exists_eq_left, settled]
    split
    · next repeated => simp [throw_eq_error, Except.bind, repeated]
    · next fresh =>
      simp [Except.bind, pure, Except.pure, Progress.followed, fresh, and_comm, eq_comm]
  rw [added]
  refine and_congr_right ?_
  rintro rfl
  exact allows.setting_iff.symm

/-- A positional argument is read exactly if what was read with it is still allowed. -/
theorem Command.addPositional_eq_ok_iff (allows : command.Allows progress) {content : String} :
    command.addPositional progress content = .ok next ↔
      next = ⟨progress.followed [] [], some content⟩ ∧ command.Allows next := by
  have added : command.addPositional progress content = .ok next ↔
      next = ⟨progress.followed [] [], some content⟩ ∧
        "" ∉ progress.pending.toList ∧
        progress.line.positionals.length + progress.pending.toList.length <
          command.positionals.length := by
    simp only [addPositional, bind]
    split
    · next full => simp [throw_eq_error, Except.bind, Nat.not_lt.mpr full]
    · next place =>
      simp only [bind_eq_ok_iff, settle_eq_ok_iff allows, and_assoc, exists_eq_left]
      simp [pure, Except.pure, Nat.lt_of_not_le place, and_comm, eq_comm]
  rw [added]
  refine and_congr_right ?_
  rintro rfl
  exact allows.positional_iff.symm

/-- What has been read is complete if nothing empty waits to be taken in and nothing is missing. -/
theorem Command.Allows.complete_iff (allows : command.Allows progress) :
    command.Complete (progress.followed [] []) ↔ "" ∉ progress.pending.toList ∧
      command.positionals.length ≤ (progress.followed [] []).positionals.length ∧
      ∀ flag ∈ command.required, flag ∈ (progress.followed [] []).given := by
  constructor
  · intro complete
    refine ⟨fun inside => complete.filled ?_, complete.count.ge, complete.required⟩
    simp [Progress.followed, inside]
  · rintro ⟨filled, enough, required⟩
    refine ⟨?_, enough.antisymm' ?_, ?_, required⟩
    · simpa [Progress.followed, CommandLine.given] using allows.once
    · simpa [Progress.followed] using allows.count
    · simpa [Progress.followed] using ⟨allows.filled, by simpa using filled⟩

/-- At the end everything has to be there. -/
theorem Command.finish_eq_ok_iff (allows : command.Allows progress) :
    command.finish progress = .ok line ↔
      line = progress.followed [] [] ∧ command.Complete line := by
  have nothing_missing : ∀ whole : CommandLine,
      ((command.required.filter fun flag => flag ∉ whole.given).isEmpty = true ∧
        (command.positionals.drop whole.positionals.length).isEmpty = true) ↔
      command.positionals.length ≤ whole.positionals.length ∧
        ∀ flag ∈ command.required, flag ∈ whole.given := by
    intro whole
    simp [List.filter_eq_nil_iff, and_comm]
  have finished : command.finish progress = .ok line ↔
      line = progress.followed [] [] ∧ command.Complete (progress.followed [] []) := by
    rw [allows.complete_iff]
    simp only [finish, bind, bind_eq_ok_iff, settle_eq_ok_iff allows, and_assoc, exists_eq_left,
      nothing_missing]
    split
    · next there =>
      rw [and_iff_left there]
      simp [pure, Except.pure, and_comm, eq_comm]
    · next absent => simp [throw_eq_error, absent]
  rw [finished]
  refine and_congr_right ?_
  rintro rfl
  exact Iff.rfl

theorem Command.askHelp_ne_ok {Answer : Type} {answer : Answer} :
    command.askHelp progress ≠ .ok answer := by
  simp only [askHelp, bind, ne_eq, bind_eq_ok_iff, throw_eq_error]
  simp

theorem Command.addFlag_ne_ok {flag : Flag} {refusal : Refusal} :
    command.addFlag progress flag (.error refusal) ≠ .ok next := by
  simp only [addFlag, bind, ne_eq, bind_eq_ok_iff]
  rintro ⟨line, -, added⟩
  split at added <;> cases added

/-- The flag of an argument and its value are taken in if it has both. -/
theorem Command.addLong_eq_ok_iff {name : String} {content : Option String} :
    command.addLong progress name content = .ok next ↔ ∃ flag value,
      command.flag? name = some flag ∧ flag.kind.given? content = some value ∧
        command.addFlag progress flag (.ok value) = .ok next := by
  rw [addLong]
  cases found : command.flag? name with
  | none => simp
  | some flag =>
    simp only [Option.some.injEq, exists_and_left, exists_eq_left']
    generalize flag.kind = kind
    cases content with
    | none => cases kind <;> simp [ValueKind.given?, ValueKind.bare?, askHelp_ne_ok]
    | some text =>
      cases taken : kind.read? text with
      | none => cases kind <;> simp [ValueKind.given?, taken, addFlag_ne_ok]
      | some value =>
        cases kind with
        | nothing => cases taken
        | _ => simp [ValueKind.given?, taken]

/-- Only a complete command line is reached, and only over what is allowed: a step that succeeds
exactly if what it leads to is allowed may be taken first. -/
theorem Command.reach_iff {good : Progress} {step : Except Refusal Progress}
    {rest : Progress → Except Refusal CommandLine} {Reached : Prop}
    (stepped : ∀ next, step = .ok next ↔ next = good ∧ command.Allows next)
    (needed : Reached → command.Allows good)
    (reached : command.Allows good → (rest good = .ok line ↔ Reached)) :
    step.bind rest = .ok line ↔ Reached := by
  rw [bind_eq_ok_iff]
  constructor
  · rintro ⟨next, stepped_next, rested⟩
    obtain ⟨rfl, allowed⟩ := (stepped next).mp stepped_next
    exact (reached allowed).mp rested
  · intro whole
    have allowed := needed whole
    exact ⟨good, (stepped good).mpr ⟨rfl, allowed⟩, (reached allowed).mpr whole⟩

end Steps

/-- Behind the lone `--` all arguments are taken in. -/
theorem Command.readPositionals_eq_ok_iff {command : Command} {line : CommandLine}
    (contents : List String) {progress : Progress} (allows : command.Allows progress) :
    command.readPositionals progress contents = .ok line ↔
      line = progress.followed [] contents ∧ command.Complete line := by
  induction contents generalizing progress with
  | nil => exact finish_eq_ok_iff allows
  | cons content rest hypothesis =>
    have onward : progress.followed [] (content :: rest) =
        (Progress.mk (progress.followed [] []) (some content)).followed [] rest :=
      (progress.followed_followed [] [] (some content) rest).symm
    rw [readPositionals, onward]
    refine reach_iff (fun _ => addPositional_eq_ok_iff allows) ?_ hypothesis
    rintro ⟨rfl, complete⟩
    exact complete.allows

/-- **Arguments are read on to a command line** exactly if those that have to be flags give flags
their values, one after the other, and the whole is complete. -/
theorem Command.readOn_eq_ok_iff {command : Command} {line : CommandLine}
    (arguments : List String) {progress : Progress} (allows : command.Allows progress) :
    command.readOn progress arguments = .ok line ↔
      ∃ settings, command.GiveAll (flagTexts arguments) settings ∧
        line = progress.followed settings (positionalTexts arguments) ∧
        command.Complete line := by
  induction arguments generalizing progress with
  | nil =>
    rw [readOn, finish_eq_ok_iff allows]
    simp [flagTexts, positionalTexts, inFront]
  | cons text rest hypothesis =>
    have not_positional : (∀ content, Argument.ofText text ≠ .positional content) →
        ¬IsPositional text := fun other positional =>
      other text (Argument.ofText_eq_positional_iff.mpr ⟨rfl, positional⟩)
    have not_separator : Argument.ofText text ≠ .separator → text ≠ "--" := fun other alone =>
      other (Argument.ofText_eq_separator_iff.mpr alone)
    rw [readOn]
    cases form : Argument.ofText text with
    | separator =>
      obtain rfl := Argument.ofText_eq_separator_iff.mp form
      simp only [readPositionals_eq_ok_iff rest allows, flagTexts_separator,
        positionalTexts_separator, List.forall₂_nil_left_iff, exists_eq_left]
    | positional content =>
      obtain ⟨rfl, positional⟩ := Argument.ofText_eq_positional_iff.mp form
      have onward : ∀ settings, progress.followed settings (content :: positionalTexts rest) =
          (Progress.mk (progress.followed [] []) (some content)).followed settings
            (positionalTexts rest) := fun settings =>
        (progress.followed_followed [] settings (some content) _).symm
      simp only [flagTexts_positional positional, positionalTexts_positional positional, onward]
      refine reach_iff (fun _ => addPositional_eq_ok_iff allows) ?_ hypothesis
      rintro ⟨settings, -, rfl, complete⟩
      exact complete.allows
    | long name content =>
      have flag : ¬IsPositional text := not_positional (by simp [form])
      have more : text ≠ "--" := not_separator (by simp [form])
      rw [flagTexts_flag more flag, positionalTexts_flag more flag]
      by_cases gives : ∃ flag value, command.Gives text flag value
      · obtain ⟨flag, value, gives⟩ := gives
        obtain ⟨name', content', form', found, taken⟩ := gives_iff.mp gives
        obtain ⟨rfl, rfl⟩ := Argument.long.inj (form.symm.trans form')
        have onward : ∀ settings, progress.followed ((flag, value) :: settings)
            (positionalTexts rest) =
              (Progress.mk (progress.followed [(flag, value)] []) none).followed settings
                (positionalTexts rest) := fun settings =>
          (progress.followed_followed [(flag, value)] settings none _).symm
        have stepped : ∀ next, command.addLong progress name content = .ok next ↔
            next = ⟨progress.followed [(flag, value)] [], none⟩ ∧ command.Allows next := by
          intro next
          rw [addLong_eq_ok_iff, ← addFlag_eq_ok_iff allows]
          simp [found, taken]
        rw [gives.giveAll_cons_iff]
        simp only [onward]
        refine reach_iff stepped ?_ hypothesis
        rintro ⟨settings, -, rfl, complete⟩
        exact complete.allows
      · simp only [not_exists] at gives
        simp only [bind_eq_ok_iff, addLong_eq_ok_iff, not_giveAll_cons gives, false_and,
          exists_false, iff_false]
        rintro ⟨next, ⟨flag, value, found, taken, -⟩, -⟩
        exact gives flag value (gives_iff.mpr ⟨name, content, form, found, taken⟩)
    | short letter =>
      have flag : ¬IsPositional text := not_positional (by simp [form])
      have more : text ≠ "--" := not_separator (by simp [form])
      have unfit : ∀ flag value, ¬command.Gives text flag value := by
        intro flag value gives
        obtain ⟨name, content, form', -⟩ := gives_iff.mp gives
        rw [form] at form'
        cases form'
      rw [flagTexts_flag more flag]
      simp only [not_giveAll_cons unfit, false_and, exists_false, iff_false]
      split
      · exact askHelp_ne_ok
      · simp

/-- **Exactly the complete command lines are read.** -/
theorem Command.read_eq_ok_iff {command : Command} {arguments : List String}
    {line : CommandLine} :
    command.read arguments = .ok line ↔
      command.GiveAll (flagTexts arguments) line.settings ∧
        line.positionals = positionalTexts arguments ∧ command.Complete line := by
  have start : command.Allows ⟨⟨[], []⟩, none⟩ := ⟨by simp [CommandLine.given], by simp, by simp⟩
  rw [read, readOn_eq_ok_iff arguments start]
  simp only [Progress.followed, List.nil_append, Option.toList_none]
  constructor
  · rintro ⟨settings, given, rfl, complete⟩
    exact ⟨given, rfl, complete⟩
  · rintro ⟨given, positionals, complete⟩
    exact ⟨line.settings, given, by rw [← positionals], complete⟩

/-- Which arguments are read at all. -/
theorem Command.exists_read_iff {command : Command} {arguments : List String} :
    (∃ line, command.read arguments = .ok line) ↔
      (∀ argument ∈ inFront arguments,
        (∃ flag value, command.Gives argument flag value) ∨ IsPositional argument) ∧
      command.GiveOnce (flagTexts arguments) ∧
      (positionalTexts arguments).length = command.positionals.length ∧
      "" ∉ positionalTexts arguments ∧
      ∀ flag ∈ command.required, ∃ value, command.Sets arguments flag value := by
  have forms : (∃ settings, command.GiveAll (flagTexts arguments) settings) ↔
      ∀ argument ∈ inFront arguments,
        (∃ flag value, command.Gives argument flag value) ∨ IsPositional argument := by
    rw [exists_giveAll_iff]
    simp only [flagTexts, List.mem_filter, decide_eq_true_eq, and_imp, or_iff_not_imp_right]
  have given_iff : ∀ {settings : Settings} {flag : Flag},
      command.GiveAll (flagTexts arguments) settings →
        (flag ∈ settings.map (·.1) ↔ ∃ value, command.Sets arguments flag value) := by
    intro settings flag given
    simp only [sets_iff, ← given.mem_iff, List.mem_map, Prod.exists, exists_and_right,
      exists_eq_right]
  rw [← forms]
  constructor
  · rintro ⟨line, read⟩
    obtain ⟨given, positionals, complete⟩ := read_eq_ok_iff.mp read
    rw [← positionals]
    exact ⟨⟨line.settings, given⟩, given.nodup_iff.mp complete.once, complete.count,
      complete.filled, fun flag needed => (given_iff given).mp (complete.required flag needed)⟩
  · rintro ⟨⟨settings, given⟩, once, count, filled, required⟩
    refine ⟨⟨settings, positionalTexts arguments⟩, read_eq_ok_iff.mpr ⟨given, rfl, ?_⟩⟩
    exact ⟨given.nodup_iff.mpr once, count, filled,
      fun flag needed => (given_iff given).mpr (required flag needed)⟩

/-! ## What is read for a flag -/

section Found

variable {command : Command} {arguments other : List String} {line : CommandLine} {flag : Flag}
  {value : FlagValue}

/-- What was read for a flag is what the arguments set it to. -/
theorem Command.find?_eq_some_iff (read : command.read arguments = .ok line) :
    line.settings.find? flag = some value ↔ command.Sets arguments flag value := by
  obtain ⟨given, -, complete⟩ := read_eq_ok_iff.mp read
  rw [Settings.find?_eq_some_iff complete.once, given.mem_iff, sets_iff]

/-- The order of the flags changes nothing in what is read for each of them. -/
theorem Command.read_of_perm (read : command.read arguments = .ok line)
    (flags : (flagTexts other).Perm (flagTexts arguments))
    (positionals : positionalTexts other = positionalTexts arguments) :
    ∃ settings : Settings, command.read other = .ok ⟨settings, line.positionals⟩ ∧
      ∀ flag, settings.find? flag = line.settings.find? flag := by
  obtain ⟨given, read_positionals, complete⟩ := read_eq_ok_iff.mp read
  obtain ⟨settings, given', alike⟩ := List.perm_comp_forall₂ flags given
  have names : (settings.map (·.1)).Perm (line.settings.map (·.1)) := alike.map _
  have whole : command.Complete ⟨settings, line.positionals⟩ :=
    ⟨names.nodup_iff.mpr complete.once, complete.count, complete.filled,
      fun flag needed => names.mem_iff.mpr (complete.required flag needed)⟩
  refine ⟨settings, read_eq_ok_iff.mpr ⟨given', ?_, whole⟩, fun flag => Option.ext fun value => ?_⟩
  · rw [positionals]
    exact read_positionals
  · rw [Settings.find?_eq_some_iff whole.once, Settings.find?_eq_some_iff complete.once,
      alike.mem_iff]

/-- What arguments yield for a flag is what was found for it, or else the default. -/
theorem Command.yields_iff {Content : Type} {wrap : Content → FlagValue} {found : Option Content}
    {standard content : Content} (read : command.read arguments = .ok line)
    (looked : ∀ content, found = some content ↔ line.settings.find? flag = some (wrap content))
    (typed : ∀ value, command.Sets arguments flag value → ∃ content, value = wrap content) :
    command.Yields arguments flag wrap standard content ↔ content = found.getD standard := by
  simp only [find?_eq_some_iff read] at looked
  rw [Yields, ← looked]
  cases found with
  | some found_content =>
    have set := (looked found_content).mp rfl
    have not_unset : ¬∀ value, ¬command.Sets arguments flag value := fun unset => unset _ set
    simp [not_unset, eq_comm]
  | none =>
    have unset : ∀ value, ¬command.Sets arguments flag value := by
      intro value set
      obtain ⟨content, rfl⟩ := typed value set
      cases (looked content).mpr set
    simp [unset]

/-- What a flag is set to is a value of its kind. -/
theorem Command.Sets.taken (set : command.Sets arguments flag value) :
    ∃ content, flag.kind.given? content = some value := by
  obtain ⟨text, -, gives⟩ := set
  obtain ⟨-, content, -, -, taken⟩ := gives_iff.mp gives
  exact ⟨content, taken⟩

theorem Command.yields_single (read : command.read arguments = .ok line)
    (kind : flag.kind = .single) {standard content : Float32} :
    command.Yields arguments flag .single standard content ↔
      content = (line.settings.single? flag).getD standard := by
  refine yields_iff read (fun content => ?_) fun value set => ?_
  · rw [Settings.single?]
    split <;> simp_all
  · obtain ⟨content, taken⟩ := set.taken
    exact ValueKind.given?_single (kind ▸ taken)

theorem Command.yields_boolean (read : command.read arguments = .ok line)
    (kind : flag.kind = .strictBoolean ∨ flag.kind = .looseBoolean) {standard content : Bool} :
    command.Yields arguments flag .boolean standard content ↔
      content = (line.settings.boolean? flag).getD standard := by
  refine yields_iff read (fun content => ?_) fun value set => ?_
  · rw [Settings.boolean?]
    split
    · simp_all
    · cases content <;> simp_all
  · obtain ⟨content, taken⟩ := set.taken
    exact ValueKind.given?_boolean kind taken

theorem Command.yields_text (read : command.read arguments = .ok line)
    (kind : flag.kind = .path ∨ flag.kind = .text) {standard content : String} :
    command.Yields arguments flag .text standard content ↔
      content = (line.settings.text? flag).getD standard := by
  refine yields_iff read (fun content => ?_) fun value set => ?_
  · rw [Settings.text?]
    split <;> simp_all
  · obtain ⟨content, taken⟩ := set.taken
    exact ValueKind.given?_text kind taken

end Found

end LiveSpeech.Options
