import LayeredConfig.Settings.ForkOnly
import LayeredConfig.Settings.Load

/-!
Overrides: the options of a command line applied over settings that other layers have filled. An
option that is absent leaves its setting alone. What was assigned before a failure stays assigned. A
configuration is assembled from three layers: the built-in settings, the file that the options name,
and the options themselves, each over those before it.
-/

namespace LayeredConfig

/-- The options that a process is started with. -/
structure Options where
  configFile : Option String
  port : Option String
  host : Option String
  instanceId : Option String
  restartCount : Option String
  statusFile : Option String
deriving DecidableEq, Repr

def Options.none : Options :=
  ⟨.none, .none, .none, .none, .none, .none⟩

/-- An attempt to finish settings: what it left of them, and how it ended. -/
structure Attempt where
  draft : Settings
  outcome : Logged ConfigFault Config

namespace Config

def warnings (config : Config) : List Event :=
  let ignored := config.changedForkOnly
  (if config.settings.unsecureFeatures then [.unsecureFeatures] else []) ++
    (if config.settings.noFork && !ignored.isEmpty then [.ignoredKeys ignored] else [])

def announcement (config : Config) : Event :=
  .assembled config.settings.host config.settings.portText config.id

end Config

namespace Settings

/-- The port option: its text is always kept, its number where it is a numeral. -/
def overridePort (s : Settings) : Option String → Settings
  | none => s
  | some text => { s with port := (Number.parse? text).getD s.port, portText := some text }

def portEvents : Option String → List Event
  | none => []
  | some text => if (Number.parse? text).isSome then [] else [.portNotNumeric text]

def overrideIdentity (s : Settings) (options : Options) : Settings :=
  { s with
    host := (options.host.map normalizeHost).or s.host
    instanceId := options.instanceId.getD s.instanceId }

/-- Reconciles settings to which all options are applied, and builds the configuration. -/
def finish (s : Settings) : Attempt :=
  match s.reconcile with
  | ⟨events, .error fault⟩ => ⟨s, events, .error fault⟩
  | ⟨events, .ok reconciled⟩ =>
    match reconciled.build with
    | .error rejection => ⟨reconciled, events, .error (.rejected rejection)⟩
    | .ok config =>
      ⟨reconciled, events ++ config.warnings ++ [config.announcement], .ok config⟩

/-- The restart count and status file options, then the finish. A restart count that is no numeral
ends the attempt before the status file is looked at. -/
def overrideWorker (s : Settings) (options : Options) : Attempt :=
  let withStatus (s : Settings) : Settings :=
    { s with statusFile := options.statusFile.or s.statusFile }
  match options.restartCount with
  | none => (withStatus s).finish
  | some text =>
    match Number.parse? text with
    | none => ⟨s, .fail (.restartsNotNumeric text)⟩
    | some n => (withStatus { s with restartCount := n }).finish

def override (s : Settings) (options : Options) : Attempt :=
  let attempt := ((s.overridePort options.port).overrideIdentity options).overrideWorker options
  { attempt with outcome :=
      ⟨portEvents options.port ++ attempt.outcome.events, attempt.outcome.result⟩ }

end Settings

/-! ### Assembly -/

/-- The settings below the options, with the path of the file that they come from. -/
def Settings.beneath (files : Files) (freshId : String) (options : Options) :
    Logged ConfigFault Settings :=
  match options.configFile with
  | none => do
    .report .noFile
    pure (.defaults freshId)
  | some text => do
    let loaded ← Settings.ofFile files freshId (.ofText text)
    pure { loaded with configPath := some (.ofText text) }

/-- The configuration of a process that is started with options. -/
def assemble (files : Files) (freshId : String) (options : Options) :
    Logged ConfigFault Config := do
  ((← Settings.beneath files freshId options).override options).outcome

end LayeredConfig
