import LayeredConfig.Proofs.Precedence
import LayeredConfig.Worker.Arguments

/-! Handover to a worker. The arguments of a worker carry the port as a number, the identity and the
absolute path of the file, and the rest is read from the file once more. So a worker agrees with its
parent wherever no option of the parent was only its own. -/

namespace LayeredConfig

open Storage (Path)

namespace Worker

/-- The options that a worker reads off its arguments: the second is its port, the fourth its
identity, and the sixth, if there is one, its file. -/
def optionsOf (arguments : List String) : Options :=
  { Options.none with
    port := arguments[1]?
    instanceId := arguments[3]?
    configFile := arguments[5]? }

theorem optionsOf_arguments (directory : Path) (config : Config) (port : Int) (id : String) :
    optionsOf (arguments false directory config port id) =
      { Options.none with
        port := some (Number.render port)
        instanceId := some id
        configFile := config.settings.configPath.map fun path =>
          (path.absolute directory).text } := by
  cases hp : config.settings.configPath <;> simp [optionsOf, arguments, escapeArgument, hp]

end Worker

/-! ### The file -/

/-- A document is found by the absolute text of its path where the path leads to the same octets. -/
theorem readDocument_absolute {files workerFiles : Files} {text cwd : String} {root : Xml.Node}
    (h : readDocument files text = .ok root) (hcwd : '\x00' ∉ cwd.toList)
    (hsame : workerFiles ((Path.ofText text).absolute (.ofText cwd)) = files (.ofText text)) :
    readDocument workerFiles ((Path.ofText text).absolute (.ofText cwd)).text = .ok root := by
  have hclean : ((Path.ofText text).absolute (.ofText cwd)).IsClean :=
    Path.isClean_absolute (Path.isClean_ofText text) (Path.isClean_ofText cwd)
  unfold readDocument at h ⊢
  by_cases hnul : '\x00' ∈ text.toList
  · rw [if_pos hnul] at h
    cases h
  · -- The absolute text has no characters but those of the two texts, slashes and dots.
    have habsolute : '\x00' ∉ ((Path.ofText text).absolute (.ofText cwd)).text.toList := by
      intro hmem
      rcases Path.mem_text_absolute (by decide) (by decide) hmem with hm | hm
      · exact hnul ((Path.mem_text_ofText_iff (by decide) (by decide)).1 hm)
      · exact hcwd ((Path.mem_text_ofText_iff (by decide) (by decide)).1 hm)
    rw [if_neg hnul] at h
    rw [if_neg habsolute, Path.ofText_text hclean, hsame]
    cases hf : files (.ofText text) with
    | error cause => rw [hf] at h; cases h
    | ok octets =>
      simp only [hf] at h ⊢
      cases hr : Xml.readGuarded octets with
      | error fault => rw [hr] at h; cases h
      | ok tree => rw [hr] at h; exact h

/-- The settings beneath the options are the same for a worker that is given the absolute path of
the file, besides its identity and the path. -/
theorem Settings.beneath_absolute {files workerFiles : Files} {freshId workerId cwd : String}
    {options workerOptions : Options} {base : Settings}
    (h : (beneath files freshId options).result = .ok base) (hcwd : '\x00' ∉ cwd.toList)
    (hsame : ∀ path, base.configPath = some path →
      workerFiles (path.absolute (.ofText cwd)) = files path)
    (hoptions : workerOptions.configFile = base.configPath.map fun path =>
      (path.absolute (.ofText cwd)).text) :
    (beneath workerFiles workerId workerOptions).result = .ok { base with
      instanceId := workerId
      configPath := base.configPath.map (·.absolute (.ofText cwd)) } := by
  cases hc : options.configFile with
  | none =>
    rw [beneath_of_none hc] at h
    cases h
    exact beneath_of_none hoptions
  | some text =>
    obtain ⟨root, loaded, hr, hl, rfl⟩ := (beneath_eq_ok_iff hc).1 h
    have hclean : ((Path.ofText text).absolute (.ofText cwd)).IsClean :=
      Path.isClean_absolute (Path.isClean_ofText text) (Path.isClean_ofText cwd)
    refine (beneath_eq_ok_iff hoptions).2 ⟨root, loaded.withIdentity workerId,
      readDocument_absolute hr hcwd (hsame _ rfl), ?_, ?_⟩
    · rw [ofTree_withIdentity freshId workerId root]
      exact Logged.result_bind_eq_ok.2 ⟨loaded, hl, rfl⟩
    · rw [Path.ofText_text hclean]
      rfl

/-! ### The worker -/

namespace Worker

/-- A configuration as a worker has it that is started from a directory: what was written by options
that are not handed over is as it is without them. -/
def received (config : Config) (host : Option String) (directory : Path) : Config :=
  ⟨{ config.settings with
    host := host
    portText := some (Number.render config.settings.port)
    restartCount := 0
    statusFile := none
    configPath := config.settings.configPath.map (·.absolute directory) }⟩

/-- The arguments for a further worker do not depend on the directory once the path is absolute. -/
theorem arguments_of_absolute {config absolute : Config} {directory : Path}
    (hanchor : directory.anchor ≠ .here)
    (h : absolute.settings.configPath = config.settings.configPath.map (·.absolute directory))
    (other : Path) (port : Int) (id : String) :
    arguments false other absolute port id = arguments false directory config port id := by
  cases hp : config.settings.configPath <;>
    simp [arguments, h, hp, Path.absolute_absolute hanchor]

theorem arguments_received (config : Config) (host : Option String) {directory : Path}
    (h : directory.anchor ≠ .here) (other : Path) (port : Int) (id : String) :
    arguments false other (received config host directory) port id =
      arguments false directory config port id :=
  arguments_of_absolute h rfl other port id

theorem overridden_received {base : Settings} {options : Options} (directory : Path)
    (workerId : String) (hcount : base.restartCount = 0) (hstatus : base.statusFile = none)
    (hprintable : Number.IsPrintable (base.overridden options).port) :
    { base with
      instanceId := workerId
      configPath := base.configPath.map (·.absolute directory) : Settings }.overridden
        (optionsOf (arguments false directory ⟨base.overridden options⟩
          (base.overridden options).port (base.overridden options).instanceId)) =
      (received ⟨base.overridden options⟩ base.host directory).settings := by
  have hport := Number.parse?_render hprintable
  rw [optionsOf_arguments, Settings.overridden_eq]
  simp only [received, Options.none, Option.bind_some, Option.some_or, Option.getD_some,
    Option.map_none, Option.none_or, Option.bind_none, Option.getD_none, hport, hcount, hstatus]
  rw [Settings.overridden_eq]

/-- A worker that is started with the arguments of an assembled configuration assembles that
configuration as it is received: with the host beneath the options of its parent and the port as a
number, no restarts and no status file, and the file by its absolute path. The arguments that it
has for a worker of its own are those that it was given. No directory has a NUL character in its
text, and the absolute path has to lead the worker to the octets that its parent has read. -/
theorem assemble_worker_of_assemble {files workerFiles : Files} {freshId workerId cwd : String}
    {options : Options} {config : Config}
    (h : (assemble files freshId options).result = .ok config) (hcwd : '\x00' ∉ cwd.toList)
    (hsame : ∀ path, config.settings.configPath = some path →
      workerFiles (path.absolute (.ofText cwd)) = files path) :
    let given := arguments false (.ofText cwd) config config.settings.port config.id
    ∃ base, (Settings.beneath files freshId options).result = .ok base ∧
      (options.host = none → config.settings.host = base.host) ∧
      (assemble workerFiles workerId (optionsOf given)).result =
        .ok (received config base.host (.ofText cwd)) ∧
      ((Path.ofText cwd).anchor ≠ .here → ∀ directory,
        arguments false directory (received config base.host (.ofText cwd)) config.settings.port
          config.id = given) := by
  intro given
  obtain ⟨base, hbase, -, rfl⟩ := assemble_eq_ok_iff.1 h
  obtain ⟨-, hcount, hstatus, -⟩ := Settings.unbound_beneath hbase
  have hpath : (base.overridden options).configPath = base.configPath := by
    rw [Settings.overridden_eq]
  have hgiven : optionsOf given = _ := optionsOf_arguments _ _ _ _
  have hworker : (Settings.beneath workerFiles workerId (optionsOf given)).result = .ok _ :=
    Settings.beneath_absolute hbase hcwd (fun path hp => hsame path (hpath.trans hp))
      (by rw [hgiven]; exact congrArg (Option.map _) hpath)
  -- Only the options above the settings that both sides share differ.
  refine ⟨base, hbase, ?_, ?_, ?_⟩
  · intro hhost
    simp [Settings.overridden_eq, hhost]
  · refine assemble_eq_ok_iff.2 ⟨_, hworker, by rw [hgiven]; rfl, ?_⟩
    exact congrArg Config.mk (overridden_received (.ofText cwd) workerId hcount hstatus
      (Config.isPrintable_get_of_assemble h .port)).symm
  · intro hanchor directory
    exact arguments_received _ _ hanchor directory _ _

/-- A parent whose port is no numeral hands the port of its file over as a number. -/
theorem assemble_worker_of_named_port :
    let octets := "<properties><server><port>080</port></server></properties>".toUTF8.toList
    let files : Files := fun path =>
      if path = ⟨.here, ["conf.xml"]⟩ then .ok octets else .error .notFound
    let workerFiles : Files := fun path =>
      if path = ⟨.root, ["work", "conf.xml"]⟩ then .ok octets else .error .notFound
    let options := { Options.none with
      configFile := some "conf.xml", port := some "http", host := some "h" }
    let config : Config := ⟨{ Settings.defaults "w" with
      host := some "h", port := 80, portText := some "http",
      configPath := some ⟨.here, ["conf.xml"]⟩ }⟩
    (assemble files "w" options).result = .ok config ∧
      ∃ host, (assemble workerFiles "v"
        (optionsOf ["-p", "80", "-i", "w", "-c", "/work/conf.xml"])).result =
          .ok (received config host (.ofText "/work")) := by
  intro octets files workerFiles options config
  have h : (assemble files "w" options).result = .ok config := by decide +kernel
  have hgiven : arguments false (.ofText "/work") config config.settings.port config.id =
      ["-p", "80", "-i", "w", "-c", "/work/conf.xml"] := by decide +kernel
  have hsame : ∀ path, config.settings.configPath = some path →
      workerFiles (path.absolute (.ofText "/work")) = files path := by
    intro path hp
    cases hp
    decide +kernel
  obtain ⟨base, -, -, hworker, -⟩ := assemble_worker_of_assemble h (by decide) hsame
  rw [hgiven] at hworker
  exact ⟨h, base.host, hworker⟩

end Worker

end LayeredConfig
