import LayeredConfig.Settings.Field
import LayeredConfig.Storage.Path

/-!
The settings of a server and its worker: one record that the layers of a configuration write to,
its built-in values, and the view of it field by field.
-/

namespace LayeredConfig

inductive LogLevel where
  | debug
  | info
deriving DecidableEq, Repr

namespace LogLevel

def text : LogLevel → String
  | .debug => "debug"
  | .info => "info"

/-- The level that a word names, letter for letter. -/
def ofText? (s : String) : Option LogLevel :=
  if s = "debug" then some .debug else if s = "info" then some .info else none

theorem text_of_ofText? {s : String} {level : LogLevel} (h : ofText? s = some level) :
    level.text = s := by
  unfold ofText? at h
  split at h
  · next hs => cases h; exact hs.symm
  · split at h
    · next hs => cases h; exact hs.symm
    · cases h

end LogLevel

/-- The settings. Times are in milliseconds; an empty list of endpoints enables all of them, and a
negative number of restarts sets no limit. -/
structure Settings where
  host : Option String
  port : Int
  portText : Option String
  instanceId : String
  taskTimeout : Int
  taskPulse : Int
  pingTimeout : Int
  pingPulse : Int
  startupTimeout : Int
  maxRestarts : Int
  maxFiles : Int
  statusFile : Option String
  restartCount : Int
  unsecureFeatures : Bool
  stackTraces : Bool
  noFork : Bool
  endpoints : List String
  workerArguments : List String
  tempFileStem : String
  digest : String
  digestMarkLimit : Int
  corsOrigin : String
  logLevel : Option LogLevel
  configPath : Option Storage.Path
deriving DecidableEq, Repr

namespace Settings

def defaultHost : String := "localhost"

def defaultPort : Int := 9998

/-- The address that listens on every interface. -/
def allInterfaces : String := "0.0.0.0"

def defaults (instanceId : String) : Settings where
  host := some defaultHost
  port := defaultPort
  portText := some (Number.render defaultPort)
  instanceId := instanceId
  taskTimeout := 120000
  taskPulse := 500
  pingTimeout := 30000
  pingPulse := 500
  startupTimeout := 120000
  maxRestarts := -1
  maxFiles := 100000
  statusFile := none
  restartCount := 0
  unsecureFeatures := false
  stackTraces := false
  noFork := false
  endpoints := []
  workerArguments := []
  tempFileStem := "tika-server-tmp-"
  digest := ""
  digestMarkLimit := 20 * 1024 * 1024
  corsOrigin := ""
  logLevel := none
  configPath := none

def get (s : Settings) : Field → Value
  | .host => .ofText? s.host
  | .port => .integer s.port
  | .portText => .ofText? s.portText
  | .instanceId => .text s.instanceId
  | .taskTimeout => .integer s.taskTimeout
  | .taskPulse => .integer s.taskPulse
  | .pingTimeout => .integer s.pingTimeout
  | .pingPulse => .integer s.pingPulse
  | .startupTimeout => .integer s.startupTimeout
  | .maxRestarts => .integer s.maxRestarts
  | .maxFiles => .integer s.maxFiles
  | .statusFile => .ofText? s.statusFile
  | .restartCount => .integer s.restartCount
  | .unsecureFeatures => .flag s.unsecureFeatures
  | .stackTraces => .flag s.stackTraces
  | .noFork => .flag s.noFork
  | .endpoints => .items s.endpoints
  | .workerArguments => .items s.workerArguments
  | .tempFileStem => .text s.tempFileStem
  | .digest => .text s.digest
  | .digestMarkLimit => .integer s.digestMarkLimit
  | .corsOrigin => .text s.corsOrigin
  | .logLevel => .ofText? (s.logLevel.map LogLevel.text)
  | .configPath => .ofText? (s.configPath.map Storage.Path.text)

end Settings

/-- Settings whose assembly is finished. No operation changes them. -/
structure Config where
  settings : Settings
deriving DecidableEq, Repr

namespace Config

/-- The identity under which the instance runs. -/
def id (config : Config) : String :=
  config.settings.instanceId

/-- Whether a configuration file took part in the assembly. -/
def hasFile (config : Config) : Bool :=
  config.settings.configPath.isSome

end Config

end LayeredConfig
