import LayeredConfig.Settings.Fault
import LayeredConfig.Settings.Logged
import LayeredConfig.Text.Blank
import LayeredConfig.Text.Lowercase

/-!
Bindings: the keys that a configuration file may set, the field that each one writes, and how its
text becomes a value. Binding a key writes one field and reports it, or changes nothing.
-/

namespace LayeredConfig

/-- Whether a text turns a flag on. One word does, `true` in any letter case with blank characters
around it; every other text turns it off. -/
def Number.parseFlag (text : String) : Bool :=
  Text.lower (Text.trim text) == "true"

/-- How the text of a key is read. -/
inductive Coercion where
  | text
  | integer
  | flag
deriving DecidableEq, Repr

def Coercion.read : Coercion → String → Except Number.NumeralFault Value
  | .text, s => .ok (.text s)
  | .integer, s => (Number.parse s).map .integer
  | .flag, s => .ok (.flag (Number.parseFlag s))

/-- A key with the field that it writes. -/
structure Binding where
  key : String
  field : Field
  coercion : Coercion
deriving DecidableEq, Repr

def bindings : List Binding :=
  [⟨"host", .host, .text⟩,
    ⟨"taskTimeoutMillis", .taskTimeout, .integer⟩,
    ⟨"taskPulseMillis", .taskPulse, .integer⟩,
    ⟨"pingTimeoutMillis", .pingTimeout, .integer⟩,
    ⟨"pingPulseMillis", .pingPulse, .integer⟩,
    ⟨"maxForkedStartupMillis", .startupTimeout, .integer⟩,
    ⟨"maxRestarts", .maxRestarts, .integer⟩,
    ⟨"maxFiles", .maxFiles, .integer⟩,
    ⟨"enableUnsecureFeatures", .unsecureFeatures, .flag⟩,
    ⟨"returnStackTrace", .stackTraces, .flag⟩,
    ⟨"noFork", .noFork, .flag⟩,
    ⟨"tmpFilePrefix", .tempFileStem, .text⟩,
    ⟨"digest", .digest, .text⟩,
    ⟨"digestMarkLimit", .digestMarkLimit, .integer⟩,
    ⟨"cors", .corsOrigin, .text⟩,
    ⟨"logLevel", .logLevel, .text⟩]

/-- The binding of a key, spelled letter for letter. -/
def Binding.ofKey? (key : String) : Option Binding :=
  bindings.find? (·.key == key)

def Settings.bindKey (s : Settings) (key text : String) : Logged ConfigFault Settings :=
  match Binding.ofKey? key with
  | none => .fail (.unknownKey key)
  | some binding =>
    match binding.coercion.read text with
    | .error fault => .fail (.badParameter key (.numeral fault))
    | .ok value =>
      match s.assignAs .draft binding.field value with
      | .error rejection => .fail (.badParameter key (.rejected rejection))
      | .ok bound => ⟨[.bound key binding.field value], .ok bound⟩

end LayeredConfig
