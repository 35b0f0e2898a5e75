import LayeredConfig.Settings.Assignment
import LayeredConfig.Storage.FileTree
import LayeredConfig.Text.Uppercase

/-!
Faults: the reasons for which no configuration comes about, and their words.
-/

namespace LayeredConfig

/-- Why the text of a key is refused. -/
inductive ParameterFault where
  | numeral (fault : Number.NumeralFault)
  | rejected (rejection : Rejection)
deriving DecidableEq, Repr

/-- Why no configuration comes about. -/
inductive ConfigFault where
  /-- The path of the file has a NUL character, which no file name can have. -/
  | nulInPath
  | unreadable (path : Storage.Path) (cause : Storage.ReadFault)
  /-- The file is not well-formed; `details` continue the message on further lines. -/
  | illFormed (details : String)
  /-- An element has a name that no element can have. -/
  | invalidName (name : String)
  /-- The root has another name, or is no element and has none. -/
  | unexpectedRoot (name : Option String)
  | unknownKey (key : String)
  | badParameter (key : String) (cause : ParameterFault)
  | missingHost
  | restartsNotNumeric (text : String)
  /-- A configuration does not take a value of the settings that it is to be built from. -/
  | rejected (rejection : Rejection)
deriving DecidableEq, Repr

def ParameterFault.message : ParameterFault → String
  | .numeral fault => fault.message
  | .rejected rejection => rejection.message

/-- The name by which messages call the operation that sets a key. -/
def setterName (key : String) : String :=
  "set" ++ Text.capitalize key

namespace ConfigFault

def key? : ConfigFault → Option String
  | .unknownKey key | .badParameter key _ => some key
  | _ => none

/-- Whether a fault is foreseen. The others are no matter of the configuration, and end the program
where they arise. -/
def isForeseen : ConfigFault → Bool
  | .nulInPath | .invalidName _ | .rejected _ => false
  | _ => true

def message : ConfigFault → String
  | .nulInPath => "embedded null byte"
  | .unreadable path cause =>
    "Failed to read configuration file " ++ path.text ++ ": [Errno " ++
      Number.render cause.code ++ "] " ++ cause.description ++ ": " ++ Text.quote path.text
  | .illFormed details => "Invalid XML in configuration file" ++ details
  | .invalidName name => "Invalid tag name " ++ Text.quote name
  | .unexpectedRoot name =>
    "expect settings as root node, got <" ++ name.getD "None" ++ ">"
  | .unknownKey key => "Couldn't find setter: " ++ setterName key
  | .badParameter key cause => "bad parameter " ++ setterName key ++ ": " ++ cause.message
  | .missingHost => "Must specify 'host'"
  | .restartsNotNumeric text => "--numRestarts must be an integer, got " ++ Text.quote text
  | .rejected rejection => rejection.message

end ConfigFault

end LayeredConfig
