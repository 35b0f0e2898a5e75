import LayeredConfig.CommandLine.Run
import LayeredConfig.Proofs.Log

/-! Runs of the program, from the arguments to the exit. Whether there is a command to be performed
can be told from the arguments alone, and so can whether the arguments of that command are in order;
the assembly stands between the two and decides over the exit before the latter are looked at. The
values of the options are made of characters of the arguments, so that a run without NUL characters
can only break off at a name that cannot be read. -/

namespace LayeredConfig.CommandLine

/-! ### Values of options -/

theorem mem_of_splitValue {argument value : String} (h : (splitValue argument).2 = some value)
    {c : Char} (hc : c ∈ value.toList) : c ∈ argument.toList := by
  unfold splitValue at h
  split at h
  · cases h
  · next e cs hd =>
    cases h
    have hsuffix : e :: cs <:+ argument.toList := hd ▸ List.dropWhile_suffix _
    exact hsuffix.subset (List.mem_cons_of_mem _ (by simpa using hc))

/-- A value that is part of an argument has no other characters. -/
theorem mem_of_recognize {command : Command} {argument word given value : String}
    (h : command.recognize argument = .ok (.option word given (some value)))
    {c : Char} (hc : c ∈ value.toList) : c ∈ argument.toList := by
  unfold Command.recognize at h
  simp only at h
  split at h
  · split at h <;> cases h
  · split at h
    · next form hf =>
      exact mem_of_splitValue (by simpa using (Recognized.option.inj (Except.ok.inj h)).2.2) hc
    · split at h
      · cases h
      · next letter cs hcs =>
        unfold Command.recognizeLetter at h
        simp only at h
        split at h
        · have hvalue := (Recognized.option.inj (Except.ok.inj h)).2.2
          split at hvalue
          · cases hvalue
          · cases hvalue
            rw [hcs]
            simp_all
        · cases h
      · cases h

/-- The values of options have no characters but those of the arguments. -/
theorem not_mem_value_of_divide {command : Command} {arguments : List String}
    {understood : Arguments} (h : command.divide arguments = .ok understood) {c : Char}
    (hc : ∀ argument ∈ arguments, c ∉ argument.toList) :
    ∀ entry ∈ understood.values, c ∉ entry.2.toList := by
  fun_induction Command.divide command arguments generalizing understood with
  | case1 => cases h; simp
  | case2 => cases h; simp
  | case3 => cases h
  | case4 argument hne ho others hr ih =>
    obtain ⟨rest, hrest, rfl⟩ := exists_of_map_eq_ok h
    have hvalues := ih hrest fun other hm => hc other (List.mem_cons_of_mem _ hm)
    exact hvalues
  | case5 argument hne ho others word given value hr ih =>
    obtain ⟨rest, hrest, rfl⟩ := exists_of_map_eq_ok h
    intro entry hentry
    rcases List.mem_cons.1 hentry with rfl | hentry
    · exact fun hm => hc argument List.mem_cons_self (mem_of_recognize hr hm)
    · exact ih hrest (fun other hm => hc other (List.mem_cons_of_mem _ hm)) entry hentry
  | case6 => cases h
  | case7 argument hne ho word given value others hr ih =>
    obtain ⟨rest, hrest, rfl⟩ := exists_of_map_eq_ok h
    intro entry hentry
    rcases List.mem_cons.1 hentry with rfl | hentry
    · exact hc value (by simp)
    · exact ih hrest (fun other hm => hc other (by simp [hm])) entry hentry
  | case8 => cases h; simp
  | case9 argument others hne ho hg ih =>
    obtain ⟨rest, hrest, rfl⟩ := exists_of_map_eq_ok h
    have hvalues := ih hrest fun other hm => hc other (List.mem_cons_of_mem _ hm)
    exact hvalues

theorem not_mem_of_value? {arguments : Arguments} {c : Char}
    (h : ∀ entry ∈ arguments.values, c ∉ entry.2.toList) {word value : String}
    (hv : arguments.value? word = some value) : c ∉ value.toList := by
  obtain ⟨entry, he, rfl⟩ := Option.map_eq_some_iff.1 hv
  exact h entry (List.mem_reverse.1 (List.mem_of_find?_eq_some he))

/-! ### Invocations -/

/-- A command to be performed: the options before its name, and the arguments behind it. -/
structure Invocation where
  options : Options
  subcommand : Subcommand
  others : List String
deriving DecidableEq

/-- The command that arguments call for. There is none where the options before it are at fault or
ask for help, and where no command of the program is named. -/
def invocation? (arguments : List String) : Option Invocation :=
  match program.divide arguments with
  | .error _ => none
  | .ok understood =>
    if understood.wantsHelp then none
    else
      match understood.rest with
      | [] => none
      | name :: others =>
        (Subcommand.ofName? name).map fun subcommand => ⟨understood.options, subcommand, others⟩

/-- What is known of the arguments that call for a command. -/
theorem exists_divide_of_invocation? {arguments : List String} {invocation : Invocation}
    (h : invocation? arguments = some invocation) :
    ∃ understood name, program.divide arguments = .ok understood ∧ understood.wantsHelp = false ∧
      understood.options = invocation.options ∧ understood.rest = name :: invocation.others ∧
      Subcommand.ofName? name = some invocation.subcommand := by
  unfold invocation? at h
  split at h
  · cases h
  · next understood hd =>
    split at h
    · cases h
    · next hw =>
      split at h
      · cases h
      · next name others hr =>
        obtain ⟨subcommand, hs, rfl⟩ := Option.map_eq_some_iff.1 h
        exact ⟨understood, name, hd, Bool.eq_false_iff.2 hw, rfl, hr, hs⟩

theorem run_of_invocation? {arguments : List String} {invocation : Invocation}
    (h : invocation? arguments = some invocation) (around : Surroundings) :
    run around arguments =
      runSubcommand around invocation.options invocation.subcommand invocation.others := by
  have hne : arguments.isEmpty = false := by
    rcases arguments with _ | ⟨first, arguments⟩
    · cases h
    · rfl
  obtain ⟨understood, name, hd, hw, ho, hr, hs⟩ := exists_divide_of_invocation? h
  simp [run, hne, hd, hw, hr, hs, ho]

theorem not_mem_configFile_of_invocation? {arguments : List String} {invocation : Invocation}
    (h : invocation? arguments = some invocation) {c : Char}
    (hc : ∀ argument ∈ arguments, c ∉ argument.toList) {text : String}
    (hf : invocation.options.configFile = some text) : c ∉ text.toList := by
  obtain ⟨understood, name, hd, -, ho, -, -⟩ := exists_divide_of_invocation? h
  rw [← ho] at hf
  exact not_mem_of_value? (not_mem_value_of_divide hd hc) hf

/-- Whether a run has ended before the log is set up: nothing is logged, and the exit is not that of
an assembly that fails. -/
structure Outcome.IsEarly (outcome : Outcome) : Prop where
  exitCode : outcome.exitCode ≠ 1
  notices : ∀ event, .logged event ∉ outcome.notices
  logLevel : outcome.logLevel = .warning

theorem Outcome.isEarly_refused (fault : UsageFault) : (refused fault).IsEarly :=
  ⟨by simp [refused, early], by simp [refused, early], rfl⟩

theorem Outcome.isEarly_help : (early 0 program.help []).IsEarly :=
  ⟨by decide, by simp [early], rfl⟩

theorem isEarly_unknownCommand (name : String) (others : List String) :
    (unknownCommand name others).IsEarly := by
  unfold unknownCommand
  simp only
  split
  · split
    · exact Outcome.isEarly_refused _
    · split
      · exact Outcome.isEarly_help
      · exact Outcome.isEarly_refused _
  · exact Outcome.isEarly_refused _

/-- Without a command to be performed a run ends early, whatever there is around it. -/
theorem exists_isEarly_of_invocation? {arguments : List String}
    (h : invocation? arguments = none) :
    ∃ outcome : Outcome, outcome.IsEarly ∧ ∀ around, run around arguments = .ok outcome := by
  unfold invocation? at h
  unfold run
  by_cases hne : arguments.isEmpty
  · simp only [hne, if_true]
    exact ⟨_, ⟨by decide, by simp [Outcome.early], rfl⟩, fun _ => rfl⟩
  · simp only [hne]
    cases hd : program.divide arguments with
    | error fault => exact ⟨_, Outcome.isEarly_refused fault, fun _ => rfl⟩
    | ok understood =>
      simp only [hd] at h ⊢
      by_cases hw : understood.wantsHelp
      · simp only [hw, if_true]
        exact ⟨_, Outcome.isEarly_help, fun _ => rfl⟩
      · rw [if_neg hw] at h
        simp only [hw]
        cases hr : understood.rest with
        | nil => exact ⟨_, Outcome.isEarly_refused _, fun _ => rfl⟩
        | cons name others =>
          simp only [hr, Option.map_eq_none_iff] at h
          simp only [h]
          exact ⟨_, isEarly_unknownCommand name others, fun _ => rfl⟩

/-! ### Commands -/

namespace Subcommand

def valueFault? (understood : Arguments) : Subcommand → Option UsageFault
  | .show => none
  | .workerArguments =>
    match workerPort understood with
    | .error fault => some fault
    | .ok _ => none

/-- Why the arguments of a command are refused. A command that is asked for help gives it before
anything else is looked at. -/
def fault? (subcommand : Subcommand) (others : List String) : Option UsageFault :=
  match subcommand.command.divide others with
  | .error fault => some fault
  | .ok understood =>
    if understood.wantsHelp then none
    else (subcommand.valueFault? understood).or
      (match understood.rest with
      | [] => none
      | first :: others => some (.unexpectedArguments first others))

theorem result_cases (around : Surroundings) (config : Config) (understood : Arguments)
    (subcommand : Subcommand) :
    match subcommand.valueFault? understood with
    | some fault => subcommand.result around config understood = .error fault
    | none => ∃ output, subcommand.result around config understood = .ok output := by
  match subcommand with
  | .show => exact ⟨_, rfl⟩
  | .workerArguments =>
    cases hp : workerPort understood with
    | error fault => simp [valueFault?, result, hp, Except.map]
    | ok port => simp [valueFault?, result, hp, Except.map]

/-- Whether a command is performed is decided by its arguments, not by the configuration. -/
theorem perform_cases (around : Surroundings) (config : Config) (subcommand : Subcommand)
    (others : List String) :
    match subcommand.fault? others with
    | some fault => subcommand.perform around config others = .error fault
    | none => ∃ output, subcommand.perform around config others = .ok output := by
  unfold fault? perform
  cases hd : subcommand.command.divide others with
  | error fault => rfl
  | ok understood =>
    simp only [bind, Except.bind]
    by_cases hw : understood.wantsHelp = true
    · simp only [if_pos hw]
      exact ⟨_, rfl⟩
    · simp only [if_neg hw]
      have hresult := subcommand.result_cases around config understood
      cases hv : subcommand.valueFault? understood with
      | some fault =>
        rw [hv] at hresult
        rw [hresult]
        rfl
      | none =>
        rw [hv] at hresult
        obtain ⟨output, hresult⟩ := hresult
        rw [hresult]
        cases understood.rest with
        | nil => exact ⟨output, rfl⟩
        | cons first others => rfl

theorem isPrintable_of_workerPort {understood : Arguments} {port : Int}
    (h : workerPort understood = .ok (some port)) : Number.IsPrintable port := by
  unfold workerPort at h
  split at h
  · cases h
  · split at h
    · next hp =>
      cases h
      exact Number.isPrintable_of_parseLenient? hp
    · cases h

end Subcommand

theorem shown_eq (events : List Event) :
    shown events = (events.filter (·.severity != .debug)).map .logged := by
  unfold shown
  congr 2
  funext event
  cases event <;> rfl

/-! ### Printed lines -/

theorem printed_eq (content : String) : printed content = Text.unstyled content ++ "\n" :=
  Text.unstyled_append_newline content

theorem printed_append {s : String} (h : '\x1b' ∉ s.toList) (t : String) :
    printed (s ++ t) = s ++ Text.unstyled t ++ "\n" := by
  rw [printed_eq, Text.unstyled_append_of_not_mem h]

/-! ### Runs -/

/-- How a run ends on arguments without NUL characters. Without a command to be performed it ends
early, before anything is assembled. Otherwise the assembly comes first: if it fails, the run shows
what was reported up to then and the fault, and exits with 1 whatever else was asked for; only a
name that cannot be read breaks the run off. After an assembly the arguments of the command decide
over the exit, and the log shows what was reported but for the details, also where the configuration
asks for these. No integer that is written is too long. -/
theorem run_outcome (around : Surroundings) {arguments : List String}
    (h : ∀ argument ∈ arguments, '\x00' ∉ argument.toList) :
    match invocation? arguments with
    | none => ∃ outcome : Outcome, outcome.IsEarly ∧ ∀ around, run around arguments = .ok outcome
    | some ⟨options, subcommand, others⟩ =>
      let assembly := assemble around.files around.freshId options
      let records := (assembly.events.filter (·.severity != .debug)).map Notice.logged
      (∀ event ∈ assembly.events, event.IsPrintable) ∧
      match assembly.result with
      | .error (.invalidName name) => run around arguments = .error (.invalidName name)
      | .error fault =>
        run around arguments =
          .ok ⟨1, "", records ++ [.text ("Error: " ++ Text.unstyled fault.message ++ "\n")], .info⟩
      | .ok config =>
        let level := if config.settings.logLevel = some .debug then .debug else .info
        (∀ field, (config.settings.get field).IsPrintable) ∧
        (∀ understood port, Subcommand.workerPort understood = .ok (some port) →
          Number.IsPrintable port) ∧
        match subcommand.fault? others with
        | some fault =>
          run around arguments =
            .ok ⟨2, "", records ++ [.text (Text.unstyled (fault.report subcommand.command))], level⟩
        | none => ∃ output, run around arguments = .ok ⟨0, output, records, level⟩ := by
  cases hi : invocation? arguments with
  | none => exact exists_isEarly_of_invocation? hi
  | some invocation =>
    obtain ⟨options, subcommand, others⟩ := invocation
    refine ⟨fun _ => isPrintable_of_mem_events_assemble, ?_⟩
    rw [run_of_invocation? hi around]
    unfold runSubcommand
    rcases hassembly : assemble around.files around.freshId options with ⟨events, fault | config⟩
    · have herror : (assemble around.files around.freshId options).result = .error fault := by
        rw [hassembly]
      have hfault := assemble_eq_error_iff.1 herror
      have hnul : fault ≠ .nulInPath := by
        rintro rfl
        obtain ⟨text, hc, hmem⟩ := exists_configFile_of_nulInPath hfault
        exact not_mem_configFile_of_invocation? hi h hc hmem
      -- A rejection is not foreseen, and it is none of the faults that are not.
      have hforeseen := (assemblyFault?_cases hfault).2
      have hprefix : '\x1b' ∉ "Error: ".toList := by decide
      simp only [shown_eq, printed_append hprefix]
      cases fault
      case nulInPath => exact absurd rfl hnul
      case rejected rejection => simpa using hforeseen rfl
      all_goals rfl
    · have hok : (assemble around.files around.freshId options).result = .ok config := by
        rw [hassembly]
      refine ⟨Config.isPrintable_get_of_assemble hok,
        fun _ _ => Subcommand.isPrintable_of_workerPort, ?_⟩
      have hperform := subcommand.perform_cases around config others
      simp only [shown_eq, levelFor]
      cases hf : subcommand.fault? others with
      | some fault =>
        rw [hf] at hperform
        rw [hperform]
      | none =>
        rw [hf] at hperform
        obtain ⟨output, houtput⟩ := hperform
        exact ⟨output, by rw [houtput]⟩

/-- The argument of a command that is at fault is looked at after the assembly, and nothing that is
reported as a detail is shown although the configuration asks for details. -/
theorem run_outcome_of_fault :
    let document := "<properties><server><logLevel>debug</logLevel></server></properties>"
    let around : Surroundings := ⟨fun _ => .ok document.toUTF8.toList, ⟨.root, []⟩, "w"⟩
    let arguments := ["-cc.xml", "worker-args", "--worker-port", "x"]
    (∀ argument ∈ arguments, '\x00' ∉ argument.toList) ∧
      run around arguments = .ok ⟨2, "",
        [.logged (.loading ⟨.here, ["c.xml"]⟩),
          .logged (.assembled (some "localhost") (some "9998") "w"),
          .text (UsageFault.report workerCommand (.notInteger "--worker-port" "x"))], .debug⟩ := by
  intro document around arguments
  have harguments : ∀ argument ∈ arguments, '\x00' ∉ argument.toList := by decide
  refine ⟨harguments, ?_⟩
  have hinvocation : invocation? arguments =
      some ⟨{ Options.none with configFile := some "c.xml" }, .workerArguments,
        ["--worker-port", "x"]⟩ := by decide +kernel
  have hresult : (assemble around.files around.freshId
      { Options.none with configFile := some "c.xml" }).result =
        .ok ⟨{ Settings.defaults "w" with
          logLevel := some .debug, configPath := some ⟨.here, ["c.xml"]⟩ }⟩ := by decide +kernel
  have hevents : (assemble around.files around.freshId
      { Options.none with configFile := some "c.xml" }).events =
        [.loading ⟨.here, ["c.xml"]⟩, .bound "logLevel" .logLevel (.text "debug"),
          .assembled (some "localhost") (some "9998") "w"] := by decide +kernel
  have hfault : Subcommand.workerArguments.fault? ["--worker-port", "x"] =
      some (.notInteger "--worker-port" "x") := by decide +kernel
  have hrun := run_outcome around harguments
  simp only [hinvocation, hresult, hfault] at hrun
  obtain ⟨-, -, -, hrun⟩ := hrun
  rw [hrun, hevents]
  decide +kernel

/-- A name that cannot be read breaks a run off, although no fault of the configuration is met. -/
theorem run_misnamed :
    let document := "<properties><p:x/><?xmlfoo?></properties>"
    let around : Surroundings := ⟨fun _ => .ok document.toUTF8.toList, ⟨.root, []⟩, "w"⟩
    let arguments := ["-c", "c.xml", "show"]
    (∀ argument ∈ arguments, '\x00' ∉ argument.toList) ∧
      (∃ fault, (assemble around.files around.freshId
        { Options.none with configFile := some "c.xml" }).result = .error fault) ∧
      run around arguments = .error (.invalidName "p:x") := by
  intro document around arguments
  exact ⟨by decide, ⟨.invalidName "p:x", by decide +kernel⟩, by decide +kernel⟩

end LayeredConfig.CommandLine
