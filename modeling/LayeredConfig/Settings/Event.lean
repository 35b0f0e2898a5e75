import LayeredConfig.Settings.Basic

/-!
Events that the assembly of a configuration reports, with the severity, the reporting part and the
words of each.
-/

namespace LayeredConfig

inductive Severity where
  | debug
  | info
  | warning
deriving DecidableEq, Repr

namespace Severity

def name : Severity → String
  | .debug => "DEBUG"
  | .info => "INFO"
  | .warning => "WARNING"

/-- The rank of a severity; a greater one is more important. -/
def rank : Severity → Nat
  | .debug => 10
  | .info => 20
  | .warning => 30

end Severity

/-- What can happen on the way to a configuration. -/
inductive Event where
  /-- A key of the file gave a field its value. -/
  | bound (key : String) (field : Field) (value : Value)
  /-- The port that stands in the settings is no number. -/
  | portLeftAsText (text : String)
  /-- The port given on the command line is no number. -/
  | portNotNumeric (text : String)
  | noFile
  | loading (path : Storage.Path)
  | unsecureFeatures
  /-- The server does not fork, and these keys were set in vain. -/
  | ignoredKeys (keys : List String)
  | assembled (host portText : Option String) (instanceId : String)
deriving DecidableEq, Repr

/-- The warning for a server that lets its users reach its files and network. -/
def unsecureWarning : String :=
  "WARNING: You have chosen to run the server with unsecure features enabled.\n" ++
  "Whoever has access to your service now has the same read permissions\n" ++
  "as you've given your fetchers and the same write permissions as your emitters.\n" ++
  "Users could request and receive a sensitive file from your\n" ++
  "drive or a webpage from your intranet and/or send malicious content to\n" ++
  "your emitter endpoints.  See CVE-2015-3271.\n" ++
  "Please make sure you know what you are doing."

namespace Event

def severity : Event → Severity
  | .bound .. | .portLeftAsText _ | .portNotNumeric _ | .noFile => .debug
  | .loading _ | .assembled .. => .info
  | .unsecureFeatures | .ignoredKeys _ => .warning

def reporter : Event → String
  | .bound .. => "forkserver.config.binder"
  | .portLeftAsText _ => "forkserver.config.validation"
  | .loading _ => "forkserver.config.loader"
  | .portNotNumeric _ | .noFile | .unsecureFeatures | .ignoredKeys _ | .assembled .. =>
    "forkserver.config.assembler"

def textOrNone (s : Option String) : String :=
  s.getD "None"

def message : Event → String
  | .bound key field value => "Bound " ++ key ++ " -> " ++ field.name ++ " = " ++ value.written
  | .portLeftAsText text => "Keeping non-numeric port " ++ Text.quote text ++ " as text"
  | .portNotNumeric text => "Port " ++ Text.quote text ++ " is not numeric, keeping it as text"
  | .noFile => "No configuration file given, using defaults"
  | .loading path => "Loading server configuration from " ++ path.text
  | .unsecureFeatures => unsecureWarning
  | .ignoredKeys keys =>
    "Forking is disabled; these settings have no effect: " ++ ", ".intercalate keys
  | .assembled host portText instanceId =>
    "Server configuration assembled: host=" ++ textOrNone host ++ ", port=" ++
      textOrNone portText ++ ", id=" ++ instanceId

end Event

end LayeredConfig
