import LayeredConfig.Number.Numeral

/-!
The fields of a configuration, and the values that they hold when they are looked at one by one.
-/

namespace LayeredConfig

/-- The fields in the order in which a configuration is shown. -/
inductive Field where
  | host
  | port
  | portText
  | instanceId
  | taskTimeout
  | taskPulse
  | pingTimeout
  | pingPulse
  | startupTimeout
  | maxRestarts
  | maxFiles
  | statusFile
  | restartCount
  | unsecureFeatures
  | stackTraces
  | noFork
  | endpoints
  | workerArguments
  | tempFileStem
  | digest
  | digestMarkLimit
  | corsOrigin
  | logLevel
  | configPath
deriving DecidableEq, Repr

namespace Field

def all : List Field :=
  [.host, .port, .portText, .instanceId, .taskTimeout, .taskPulse, .pingTimeout, .pingPulse,
    .startupTimeout, .maxRestarts, .maxFiles, .statusFile, .restartCount, .unsecureFeatures,
    .stackTraces, .noFork, .endpoints, .workerArguments, .tempFileStem, .digest,
    .digestMarkLimit, .corsOrigin, .logLevel, .configPath]

def name : Field → String
  | .host => "host"
  | .port => "port"
  | .portText => "port_string"
  | .instanceId => "id_base"
  | .taskTimeout => "task_timeout_millis"
  | .taskPulse => "task_pulse_millis"
  | .pingTimeout => "ping_timeout_millis"
  | .pingPulse => "ping_pulse_millis"
  | .startupTimeout => "max_forked_startup_millis"
  | .maxRestarts => "max_restarts"
  | .maxFiles => "max_files"
  | .statusFile => "forked_status_file"
  | .restartCount => "num_restarts"
  | .unsecureFeatures => "enable_unsecure_features"
  | .stackTraces => "return_stack_trace"
  | .noFork => "no_fork"
  | .endpoints => "endpoints"
  | .workerArguments => "forked_jvm_args"
  | .tempFileStem => "temp_file_prefix"
  | .digest => "digest"
  | .digestMarkLimit => "digest_mark_limit"
  | .corsOrigin => "cors"
  | .logLevel => "log_level"
  | .configPath => "config_path"

def ofName? (name : String) : Option Field :=
  all.find? (·.name == name)

end Field

inductive Value where
  | absent
  | text (content : String)
  | integer (number : Int)
  | flag (on : Bool)
  | items (contents : List String)
deriving DecidableEq, Repr

namespace Value

def written : Value → String
  | .absent => "None"
  | .text content => Text.quote content
  | .integer number => Number.render number
  | .flag true => "True"
  | .flag false => "False"
  | .items contents => "[" ++ ", ".intercalate (contents.map Text.quote) ++ "]"

def kindName : Value → String
  | .absent => "NoneType"
  | .text _ => "str"
  | .integer _ => "int"
  | .flag _ => "bool"
  | .items _ => "list"

def ofText? : Option String → Value
  | none => .absent
  | some content => .text content

end Value

end LayeredConfig
