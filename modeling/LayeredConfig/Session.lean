import LayeredConfig.Settings.Override
import LayeredConfig.Worker.Arguments

/-!
Sessions: settings under work together with the configuration that was last made from them or
besides them, and the operations on the two. An operation that fails leaves the configuration as it
was, and of the settings it changes at most what an unfinished override has assigned.
-/

namespace LayeredConfig

/-- What surrounds a session: the files it can read, its directory, and the identity that new
instances get. -/
structure Surroundings where
  files : Files
  directory : Storage.Path
  freshId : String

structure Session where
  draft : Settings
  config : Option Config

inductive Operation where
  | bind (key text : String)
  | set (field : Field) (value : Value)
  | extend (field : Field) (items : List String)
  | validate
  /-- Loads a document by its guarded tree. -/
  | load (octets : List UInt8)
  /-- Loads a tree that is read already, or else fails as its reading did. -/
  | loadTree (tree : Except Xml.Fault Xml.Node)
  | loadFile (path : String)
  | build
  | override (options : Options)
  | assemble (options : Options)
  | showConfig
  | setConfig (field : Field) (value : Value)
  | workerArguments (port : Option Int) (id : Option String) (windows : Bool)

/-- What a successful operation answers. -/
inductive Reply where
  | done
  | config (config : Config)
  | arguments (arguments : List String)

/-- Why an operation fails. -/
inductive SessionFault where
  | config (fault : ConfigFault)
  | rejected (rejection : Rejection)
  /-- The tree to be loaded could not be read. -/
  | noTree (fault : Xml.Fault)
  /-- There is no configuration yet. -/
  | noConfig
deriving DecidableEq, Repr

/-- What an operation leaves and answers. -/
structure StepResult where
  session : Session
  outcome : Logged SessionFault Reply

namespace Session

def ofConfigFault {α : Type} (outcome : Logged ConfigFault α) : Logged SessionFault α :=
  ⟨outcome.events, outcome.result.mapError .config⟩

/-- A step that makes new settings, which are kept if it succeeds. -/
def replaceDraft (session : Session) (outcome : Logged ConfigFault Settings) : StepResult :=
  match outcome with
  | ⟨events, .ok draft⟩ => ⟨{ session with draft := draft }, events, .ok .done⟩
  | ⟨events, .error fault⟩ => ⟨session, events, .error (.config fault)⟩

/-- A step that makes a configuration, which is kept if it succeeds. -/
def replaceConfig (session : Session) (outcome : Logged ConfigFault Config) : StepResult :=
  match outcome with
  | ⟨events, .ok config⟩ => ⟨{ session with config := some config }, events, .ok (.config config)⟩
  | ⟨events, .error fault⟩ => ⟨session, events, .error (.config fault)⟩

/-- A step that only looks at the configuration. -/
def withConfig (session : Session) (reply : Config → Reply) : StepResult :=
  match session.config with
  | some config => ⟨session, [], .ok (reply config)⟩
  | none => ⟨session, [], .error .noConfig⟩

def step (around : Surroundings) (session : Session) : Operation → StepResult
  | .bind key text => session.replaceDraft (session.draft.bindKey key text)
  | .set field value =>
    match session.draft.assignAs .draft field value with
    | .ok draft => ⟨{ session with draft := draft }, [], .ok .done⟩
    | .error rejection => ⟨session, [], .error (.rejected rejection)⟩
  | .extend field items =>
    ⟨{ session with draft := session.draft.extend field items }, [], .ok .done⟩
  | .validate => session.replaceDraft session.draft.reconcile
  | .load octets => session.replaceDraft (Settings.ofOctets around.freshId "<string>" octets)
  | .loadTree (.ok root) => session.replaceDraft (Settings.ofTree around.freshId root)
  | .loadTree (.error fault) => ⟨session, [], .error (.noTree fault)⟩
  | .loadFile path =>
    session.replaceDraft (Settings.ofFile around.files around.freshId (.ofText path))
  | .build =>
    match session.draft.build with
    | .ok config => ⟨{ session with config := some config }, [], .ok (.config config)⟩
    | .error rejection => ⟨session, [], .error (.rejected rejection)⟩
  | .override options =>
    let attempt := session.draft.override options
    { session with draft := attempt.draft }.replaceConfig attempt.outcome
  | .assemble options =>
    session.replaceConfig (LayeredConfig.assemble around.files around.freshId options)
  | .showConfig => session.withConfig .config
  | .setConfig field value => ⟨session, [], .error (.rejected (Config.refuse field value))⟩
  | .workerArguments port id windows =>
    session.withConfig fun config =>
      .arguments (Worker.argumentsOr windows around.directory config port id)

end Session

end LayeredConfig
