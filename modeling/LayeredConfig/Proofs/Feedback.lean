import LayeredConfig.Proofs.Handover
import LayeredConfig.Proofs.Runs
import LayeredConfig.Text.Lines

/-! The printed arguments of a worker, given to the program again. The arguments are printed one per
line, nothing in them is escaped, and escape sequences are left out, so the lines are the arguments
exactly if there is neither a line feed nor an escape sequence in them. Then the program takes them
as its own options, assembles a configuration with the printed port, identity and file, and so
prints the same once more. -/

namespace LayeredConfig

open Storage (Path)

/-! ### The configuration of a worker -/

/-- The options that a worker reads off its arguments make a configuration with the port and the
identity that it is given, and with the absolute path of the file. -/
theorem Worker.exists_assemble_optionsOf {files workerFiles : Files} {freshId cwd : String}
    {options : Options} {config : Config}
    (h : (assemble files freshId options).result = .ok config) (hcwd : '\x00' ∉ cwd.toList)
    (hsame : ∀ path, config.settings.configPath = some path →
      workerFiles (path.absolute (.ofText cwd)) = files path)
    {port : Int} (hport : Number.IsPrintable port) (workerId id : String) :
    ∃ again, (assemble workerFiles workerId
        (optionsOf (arguments false (.ofText cwd) config port id))).result = .ok again ∧
      again.settings.port = port ∧ again.id = id ∧
      again.settings.configPath = config.settings.configPath.map (·.absolute (.ofText cwd)) := by
  obtain ⟨base, hbase, -, rfl⟩ := assemble_eq_ok_iff.1 h
  have hpath : (base.overridden options).configPath = base.configPath := by
    rw [Settings.overridden_eq]
  rw [hpath] at hsame
  rw [optionsOf_arguments, hpath]
  refine ⟨_, assemble_eq_ok_iff.2 ⟨_, Settings.beneath_absolute hbase hcwd hsame rfl, rfl, rfl⟩,
    ?_, ?_, ?_⟩
  · rw [Settings.overridden_eq]
    simp [Number.parse?_render hport]
  · rw [Config.id, Settings.overridden_eq]
    rfl
  · rw [Settings.overridden_eq]

namespace CommandLine

/-! ### Successful runs -/

/-- Whether a run succeeds and prints an output. -/
def Prints (around : Surroundings) (arguments : List String) (output : String) : Prop :=
  ∃ outcome, run around arguments = .ok outcome ∧ outcome.exitCode = 0 ∧ outcome.output = output

/-- A command that is called for prints what it is performed with on the assembled
configuration. -/
theorem prints_iff_of_invocation? {arguments : List String} {invocation : Invocation}
    (h : invocation? arguments = some invocation) {around : Surroundings} {output : String} :
    Prints around arguments output ↔
      ∃ config, (assemble around.files around.freshId invocation.options).result = .ok config ∧
        invocation.subcommand.perform around config invocation.others = .ok output := by
  unfold Prints
  rw [run_of_invocation? h around]
  unfold runSubcommand
  rcases assemble around.files around.freshId invocation.options with ⟨events, fault | config⟩
  · cases hf : fault.isForeseen <;> simp [hf]
  · cases hp : invocation.subcommand.perform around config invocation.others with
    | error fault => simp [hp]
    | ok printed => simp [hp]

namespace Subcommand

theorem perform_eq_ok_iff {subcommand : Subcommand} {others : List String} {understood : Arguments}
    (hd : subcommand.command.divide others = .ok understood) (hw : understood.wantsHelp = false)
    {around : Surroundings} {config : Config} {output : String} :
    subcommand.perform around config others = .ok output ↔
      subcommand.result around config understood = .ok output ∧ understood.rest = [] := by
  unfold perform
  simp only [hd, bind, Except.bind, hw]
  cases subcommand.result around config understood with
  | error fault => simp
  | ok printed =>
    cases understood.rest with
    | nil => simp [pure, Except.pure]
    | cons first others => exact ⟨nofun, fun h => nomatch h.2⟩

theorem result_workerArguments_eq_ok_iff {around : Surroundings} {config : Config}
    {understood : Arguments} {output : String} :
    workerArguments.result around config understood = .ok output ↔
      ∃ port, workerPort understood = .ok port ∧
        String.join ((Worker.argumentsOr false around.directory config port
          (workerId understood)).map printed) = output := by
  unfold result
  cases workerPort understood <;> simp [Except.map]

end Subcommand

/-- A command whose arguments are in order prints its result. -/
theorem prints_iff_of_divide {arguments : List String} {invocation : Invocation}
    {understood : Arguments} (h : invocation? arguments = some invocation)
    (hd : invocation.subcommand.command.divide invocation.others = .ok understood)
    (hw : understood.wantsHelp = false) {around : Surroundings} {output : String} :
    Prints around arguments output ↔
      ∃ config, (assemble around.files around.freshId invocation.options).result = .ok config ∧
        invocation.subcommand.result around config understood = .ok output ∧
        understood.rest = [] := by
  rw [prints_iff_of_invocation? h]
  simp only [Subcommand.perform_eq_ok_iff hd hw]

/-! ### What is printed -/

/-- The lines that are printed for texts are the texts themselves exactly if none of them has a line
feed in it or loses an escape sequence. -/
theorem lines_join_printed_iff {texts : List String} :
    Text.lines (String.join (texts.map printed)) = texts ↔
      ∀ text ∈ texts, '\n' ∉ text.toList ∧ Text.unstyled text = text := by
  have hprinted : texts.map printed = (texts.map Text.unstyled).map (· ++ "\n") := by
    rw [List.map_map]
    exact List.map_congr_left fun text _ => printed_eq text
  have hself : texts.map Text.unstyled = texts ↔ ∀ text ∈ texts, Text.unstyled text = text := by
    simpa using List.map_inj_left (l := texts) (f := Text.unstyled) (g := id)
  rw [hprinted]
  constructor
  · intro h
    have hlines : ∀ text ∈ texts, '\n' ∉ text.toList := by
      intro text ht
      rw [← h] at ht
      exact Text.not_mem_of_mem_lines ht
    have hunstyled : ∀ text ∈ texts.map Text.unstyled, '\n' ∉ text.toList :=
      List.forall_mem_map.2 fun text ht => Text.not_mem_unstyled (hlines text ht)
    rw [Text.lines_join_iff.2 hunstyled] at h
    exact fun text ht => ⟨hlines text ht, hself.1 h text ht⟩
  · intro h
    rw [hself.2 fun text ht => (h text ht).2]
    exact Text.lines_join_iff.2 fun text ht => (h text ht).1

/-- Whether a port and an identity are those that a worker gets: what the arguments ask for, or else
what the configuration has. To ask for an empty identity is to ask for none. -/
structure Arguments.IsServedBy (arguments : Arguments) (config : Config) (port : Int)
    (id : String) : Prop where
  port : match arguments.value? "--worker-port" with
    | none => port = config.settings.port
    | some given => Number.parseLenient? given = some port
  id : match arguments.value? "--worker-id" with
    | none => id = config.id
    | some given => id = if given = "" then config.id else given

/-- What a worker gets for the options of its command, which can be written. -/
theorem Arguments.exists_isServedBy {arguments : Arguments} {config : Config} {port? : Option Int}
    (h : Subcommand.workerPort arguments = .ok port?)
    (hconfig : Number.IsPrintable config.settings.port) :
    ∃ port id, arguments.IsServedBy config port id ∧ Number.IsPrintable port ∧
      ∀ directory, Worker.argumentsOr false directory config port?
        (Subcommand.workerId arguments) = Worker.arguments false directory config port id := by
  refine ⟨port?.getD config.settings.port, (Subcommand.workerId arguments).getD config.id,
    ⟨?_, ?_⟩, ?_, fun _ => rfl⟩
  · unfold Subcommand.workerPort at h
    cases hv : arguments.value? "--worker-port" with
    | none =>
      rw [hv] at h
      cases h
      rfl
    | some given =>
      simp only [hv] at h
      cases hp : Number.parseLenient? given with
      | none => simp [hp] at h
      | some port =>
        rw [hp] at h
        cases h
        exact hp
  · cases hv : arguments.value? "--worker-id" with
    | none => simp [Subcommand.workerId, hv]
    | some given =>
      by_cases hempty : given = ""
      · simp [Subcommand.workerId, hv, Option.filter, hempty]
      · simp [Subcommand.workerId, hv, Option.filter, hempty]
  · cases port? with
    | none => exact hconfig
    | some port => exact Subcommand.isPrintable_of_workerPort h

/-! ### The second run -/

/-- The printed arguments before the name of the command call for it, with the options that a worker
reads off them. -/
theorem invocation?_append_workerArguments (directory : Path) (config : Config) (port : Int)
    (id : String) :
    let printed := Worker.arguments false directory config port id
    invocation? (printed ++ ["worker-args"]) =
      some ⟨Worker.optionsOf printed, .workerArguments, []⟩ := by
  intro printed
  rw [Worker.optionsOf_arguments]
  unfold printed Worker.arguments
  cases config.settings.configPath with
  | none => rfl
  | some path => rfl

/-- What `worker-args` prints and what comes of it. The output has the arguments of a worker for the
assembled configuration, each as a line of its own without its escape sequences. The lines are the
arguments exactly if none of these has a line feed in it or an escape sequence to lose. Then the
program succeeds on them before `worker-args`, and prints the same, wherever the absolute path of
the file leads to the octets that were read. -/
theorem prints_workerArguments {files : Files} {cwd freshId output : String}
    {arguments others : List String} {options : Options} {understood : Arguments}
    (hcalled : invocation? arguments = some ⟨options, .workerArguments, others⟩)
    (hdivided : workerCommand.divide others = .ok understood)
    (hhelp : understood.wantsHelp = false)
    (hcwd : '\x00' ∉ cwd.toList) (hanchor : (Path.ofText cwd).anchor ≠ .here)
    (hprints : Prints ⟨files, .ofText cwd, freshId⟩ arguments output) :
    ∃ config port id, (assemble files freshId options).result = .ok config ∧
      understood.IsServedBy config port id ∧
      let given := Worker.arguments false (.ofText cwd) config port id
      output = String.join (given.map fun argument => Text.unstyled argument ++ "\n") ∧
      (Text.lines output = given ↔
        ∀ argument ∈ given, '\n' ∉ argument.toList ∧ Text.unstyled argument = argument) ∧
      (Text.lines output = given → ∀ later : Surroundings,
        (∀ path, config.settings.configPath = some path →
          later.files (path.absolute (.ofText cwd)) = files path) →
        Prints later (Text.lines output ++ ["worker-args"]) output) := by
  obtain ⟨config, hconfig, hresult, -⟩ := (prints_iff_of_divide hcalled hdivided hhelp).1 hprints
  obtain ⟨port?, hport?, rfl⟩ := Subcommand.result_workerArguments_eq_ok_iff.1 hresult
  obtain ⟨port, id, hserved, hport, hgiven⟩ := Arguments.exists_isServedBy hport?
    (Config.isPrintable_get_of_assemble hconfig .port)
  rw [hgiven]
  refine ⟨config, port, id, hconfig, hserved, ?_, lines_join_printed_iff, ?_⟩
  · exact congrArg String.join (List.map_congr_left fun argument _ => printed_eq argument)
  · intro hlines later hsame
    rw [hlines]
    -- The second configuration may differ from the first, but not in what is printed.
    obtain ⟨again, hagain, rfl, rfl, hpath⟩ :=
      Worker.exists_assemble_optionsOf hconfig hcwd hsame hport later.freshId id
    have hsecond : Worker.arguments false later.directory again again.settings.port again.id =
        Worker.arguments false (.ofText cwd) config again.settings.port again.id :=
      Worker.arguments_of_absolute hanchor hpath later.directory _ _
    refine (prints_iff_of_divide (invocation?_append_workerArguments _ _ _ _) rfl rfl).2
      ⟨again, hagain, ?_, rfl⟩
    rw [← hsecond]
    exact Subcommand.result_workerArguments_eq_ok_iff.2 ⟨none, rfl, rfl⟩

/-- A worker is asked to have the port `7`, which is written with a blank, a zero and an underscore,
and finds the file of a relative path from another directory. -/
theorem prints_workerArguments_of_child :
    let octets := "<properties><server><port>080</port></server></properties>".toUTF8.toList
    let files : Files := fun path =>
      if path = ⟨.here, ["conf.xml"]⟩ then .ok octets else .error .notFound
    let workerFiles : Files := fun path =>
      if path = ⟨.root, ["work", "conf.xml"]⟩ then .ok octets else .error .notFound
    let output := "-p\n7\n-i\nchild\n-c\n/work/conf.xml\n"
    Prints ⟨files, .ofText "/work", "w"⟩
        ["-c", "conf.xml", "worker-args", "--worker-port", " 0_7", "--worker-id", "child"] output ∧
      Prints ⟨workerFiles, ⟨.root, []⟩, "v"⟩
        ["-p", "7", "-i", "child", "-c", "/work/conf.xml", "worker-args"] output := by
  intro octets files workerFiles output
  let arguments :=
    ["-c", "conf.xml", "worker-args", "--worker-port", " 0_7", "--worker-id", "child"]
  let options := { Options.none with configFile := some "conf.xml" }
  let understood : Arguments :=
    ⟨[("--worker-port", " 0_7"), ("--worker-id", "child")], false, []⟩
  have hcalled : invocation? arguments = some ⟨options, .workerArguments,
      ["--worker-port", " 0_7", "--worker-id", "child"]⟩ := by decide +kernel
  have hdivided : workerCommand.divide ["--worker-port", " 0_7", "--worker-id", "child"] =
      .ok understood := by decide +kernel
  have hprints : Prints ⟨files, .ofText "/work", "w"⟩ arguments output :=
    ⟨⟨0, output, [.logged (.loading ⟨.here, ["conf.xml"]⟩),
        .logged (.assembled (some "localhost") (some "080") "w")], .info⟩,
      by decide +kernel, rfl, rfl⟩
  obtain ⟨config, port, id, hconfig, ⟨hport, hid⟩, -, hlines, hagain⟩ :=
    prints_workerArguments hcalled hdivided rfl (by decide) (by decide) hprints
  have hassembled : (assemble files "w" options).result = .ok ⟨{ Settings.defaults "w" with
      port := 80, portText := some "080", configPath := some ⟨.here, ["conf.xml"]⟩ }⟩ := by
    decide +kernel
  obtain rfl := Except.ok.inj (hconfig.symm.trans hassembled)
  obtain rfl : 7 = port := by
    have hseven : Number.parseLenient? " 0_7" = some 7 := by decide +kernel
    exact Option.some.inj (hseven.symm.trans hport)
  obtain rfl : id = "child" := hid
  have hclean : ∀ argument ∈ Worker.arguments false (.ofText "/work") ⟨{ Settings.defaults "w" with
      port := 80, portText := some "080", configPath := some ⟨.here, ["conf.xml"]⟩ }⟩ 7 "child",
      '\n' ∉ argument.toList ∧ Text.unstyled argument = argument := by decide +kernel
  have hsecond := hagain (hlines.2 hclean) ⟨workerFiles, ⟨.root, []⟩, "v"⟩ (by
    intro path hpath
    cases hpath
    decide +kernel)
  exact ⟨hprints, by rwa [hlines.2 hclean] at hsecond⟩

/-- An identity with a line feed is printed as two lines, and the second of them is no argument of
the program; one with escape sequences is printed without them; and the output for an empty identity
that is asked for has another one. -/
theorem prints_workerArguments_unfaithful :
    let around : Surroundings := ⟨fun _ => .error .notFound, ⟨.root, ["work"]⟩, "w"⟩
    let broken : Config := ⟨{ Settings.defaults "w" with instanceId := "a\nb" }⟩
    let colored : Config := ⟨{ Settings.defaults "w" with instanceId := "\x1b[31mred\x1b[0m" }⟩
    let plain : Config := ⟨Settings.defaults "w"⟩
    ((assemble around.files around.freshId { Options.none with instanceId := some "a\nb" }).result =
        .ok broken ∧
      Prints around ["-i", "a\nb", "worker-args"] "-p\n9998\n-i\na\nb\n" ∧
      Text.lines "-p\n9998\n-i\na\nb\n" = ["-p", "9998", "-i", "a", "b"] ∧
      ["-p", "9998", "-i", "a", "b"] ≠
        Worker.arguments false around.directory broken broken.settings.port broken.id ∧
      ∀ output, ¬ Prints around ["-p", "9998", "-i", "a", "b", "worker-args"] output) ∧
    ((assemble around.files around.freshId
        { Options.none with instanceId := some "\x1b[31mred\x1b[0m" }).result = .ok colored ∧
      Prints around ["-i", "\x1b[31mred\x1b[0m", "worker-args"] "-p\n9998\n-i\nred\n" ∧
      Text.lines "-p\n9998\n-i\nred\n" ≠
        Worker.arguments false around.directory colored colored.settings.port colored.id) ∧
    (assemble around.files around.freshId Options.none).result = .ok plain ∧
      Prints around ["worker-args", "--worker-id", ""] "-p\n9998\n-i\nw\n" ∧
      Text.lines "-p\n9998\n-i\nw\n" ≠
        Worker.arguments false around.directory plain plain.settings.port "" := by
  intro around broken colored plain
  have hbroken : run around ["-i", "a\nb", "worker-args"] = .ok ⟨0, "-p\n9998\n-i\na\nb\n",
      [.logged (.assembled (some "localhost") (some "9998") "a\nb")], .info⟩ := by decide +kernel
  have hrefused : run around ["-p", "9998", "-i", "a", "b", "worker-args"] =
      .ok (.refused (.unknownCommand "b" [])) := by decide +kernel
  have hcolored : run around ["-i", "\x1b[31mred\x1b[0m", "worker-args"] =
      .ok ⟨0, "-p\n9998\n-i\nred\n",
        [.logged (.assembled (some "localhost") (some "9998") "\x1b[31mred\x1b[0m")], .info⟩ := by
    decide +kernel
  have hplain : run around ["worker-args", "--worker-id", ""] = .ok ⟨0, "-p\n9998\n-i\nw\n",
      [.logged (.assembled (some "localhost") (some "9998") "w")], .info⟩ := by decide +kernel
  refine ⟨⟨by decide +kernel, ⟨_, hbroken, rfl, rfl⟩, by decide +kernel, by decide +kernel, ?_⟩,
    ⟨by decide +kernel, ⟨_, hcolored, rfl, rfl⟩, by decide +kernel⟩,
    by decide +kernel, ⟨_, hplain, rfl, rfl⟩, by decide +kernel⟩
  rintro output ⟨outcome, hrun, hexit, -⟩
  obtain rfl := Except.ok.inj (hrefused.symm.trans hrun)
  exact absurd hexit (by decide)

end CommandLine

end LayeredConfig
