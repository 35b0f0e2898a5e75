import LayeredConfig.Settings.Basic
import LayeredConfig.Text.Quoted

/-!
Assignment of single fields and building. An assignment is checked when it is made: the host `*`
becomes the address of all interfaces, and the log level must be one that exists. Building applies
the same rules once more; afterwards every assignment is refused.
-/

namespace LayeredConfig

/-- Whether the holder of a rejected value still takes assignments. -/
inductive Holder where
  | draft
  | config
deriving DecidableEq, Repr

def Holder.name : Holder → String
  | .draft => "ServerConfigBuilder"
  | .config => "ServerConfig"

/-- Why a value is rejected. -/
inductive RejectionCause where
  | unknownLogLevel
  | frozen
  | wrongKind
deriving DecidableEq, Repr

/-- A value that a field does not take. -/
structure Rejection where
  holder : Holder
  field : Field
  value : Value
  cause : RejectionCause
deriving DecidableEq, Repr

namespace RejectionCause

/-- The reason in words, and the name of its class. -/
def reason : RejectionCause → String × String
  | .unknownLogLevel =>
    ("Value error, log level must be one of: 'debug' or 'info'", "value_error")
  | .frozen => ("Instance is frozen", "frozen_instance")
  | .wrongKind => ("Value is of the wrong kind", "wrong_kind")

end RejectionCause

/-- A rejection in three lines: the holder, the field, and the reason with the value. -/
def Rejection.message (r : Rejection) : String :=
  "1 validation error for " ++ r.holder.name ++ "\n" ++ r.field.name ++ "\n  " ++
    r.cause.reason.1 ++ " [type=" ++ r.cause.reason.2 ++ ", input_value=" ++
    Text.abbreviate r.value.written ++ ", input_type=" ++ r.value.kindName ++ "]"

namespace Settings

/-- A host as it is kept: the wildcard stands for all interfaces. -/
def normalizeHost (host : String) : String :=
  if host = "*" then allInterfaces else host

/-- The settings after an assignment to one field, or the reason why the field does not take the
value. -/
def assign (s : Settings) : Field → Value → Except RejectionCause Settings
  | .host, .absent => .ok { s with host := none }
  | .host, .text v => .ok { s with host := some (normalizeHost v) }
  | .port, .integer v => .ok { s with port := v }
  | .portText, .absent => .ok { s with portText := none }
  | .portText, .text v => .ok { s with portText := some v }
  | .instanceId, .text v => .ok { s with instanceId := v }
  | .taskTimeout, .integer v => .ok { s with taskTimeout := v }
  | .taskPulse, .integer v => .ok { s with taskPulse := v }
  | .pingTimeout, .integer v => .ok { s with pingTimeout := v }
  | .pingPulse, .integer v => .ok { s with pingPulse := v }
  | .startupTimeout, .integer v => .ok { s with startupTimeout := v }
  | .maxRestarts, .integer v => .ok { s with maxRestarts := v }
  | .maxFiles, .integer v => .ok { s with maxFiles := v }
  | .statusFile, .absent => .ok { s with statusFile := none }
  | .statusFile, .text v => .ok { s with statusFile := some v }
  | .restartCount, .integer v => .ok { s with restartCount := v }
  | .unsecureFeatures, .flag v => .ok { s with unsecureFeatures := v }
  | .stackTraces, .flag v => .ok { s with stackTraces := v }
  | .noFork, .flag v => .ok { s with noFork := v }
  | .endpoints, .items v => .ok { s with endpoints := v }
  | .workerArguments, .items v => .ok { s with workerArguments := v }
  | .tempFileStem, .text v => .ok { s with tempFileStem := v }
  | .digest, .text v => .ok { s with digest := v }
  | .digestMarkLimit, .integer v => .ok { s with digestMarkLimit := v }
  | .corsOrigin, .text v => .ok { s with corsOrigin := v }
  | .logLevel, .absent => .ok { s with logLevel := none }
  | .logLevel, .text v =>
    match LogLevel.ofText? v with
    | some level => .ok { s with logLevel := some level }
    | none => .error .unknownLogLevel
  | .configPath, .absent => .ok { s with configPath := none }
  | .configPath, .text v => .ok { s with configPath := some (.ofText v) }
  | _, _ => .error .wrongKind

/-- A value as a field keeps it once it has taken it. -/
def kept : Field → Value → Value
  | .host, .text v => .text (normalizeHost v)
  | .configPath, .text v => .text (Storage.Path.ofText v).text
  | _, value => value

/-- An assignment gives the field its value, in the form in which the field keeps it. -/
theorem get_assign_self {s t : Settings} {field : Field} {value : Value}
    (h : s.assign field value = .ok t) : t.get field = kept field value := by
  cases field <;> cases value <;> simp only [assign, reduceCtorEq, Except.ok.injEq] at h <;>
    first
    | (subst h; rfl)
    | (split at h <;> simp only [reduceCtorEq, Except.ok.injEq] at h
       rename_i hl
       subst h; simp [get, kept, Value.ofText?, LogLevel.text_of_ofText? hl])

/-- An assignment to one field leaves the other fields as they are. -/
theorem get_assign_of_ne {s t : Settings} {field other : Field} {value : Value}
    (h : s.assign field value = .ok t) (hne : other ≠ field) : t.get other = s.get other := by
  cases field <;> cases value <;> simp only [assign, reduceCtorEq, Except.ok.injEq] at h <;>
    first
    | (subst h; cases other <;> first | rfl | exact absurd rfl hne)
    | (split at h <;> simp only [reduceCtorEq, Except.ok.injEq] at h
       subst h; cases other <;> first | rfl | exact absurd rfl hne)

/-- An assignment whose rejection names its holder. -/
def assignAs (holder : Holder) (s : Settings) (field : Field) (value : Value) :
    Except Rejection Settings :=
  (s.assign field value).mapError (⟨holder, field, value, ·⟩)

/-- The settings of a new instance with some fields given, in the order of assignment. -/
def ofFields (holder : Holder) (instanceId : String) (fields : List (Field × Value)) :
    Except Rejection Settings :=
  fields.foldlM (fun s entry => s.assignAs holder entry.1 entry.2) (defaults instanceId)

/-- Appends items to one of the two lists; the other fields have none to append to. -/
def extend (s : Settings) : Field → List String → Settings
  | .endpoints, items => { s with endpoints := s.endpoints ++ items }
  | .workerArguments, items => { s with workerArguments := s.workerArguments ++ items }
  | _, _ => s

def dump (s : Settings) : List (Field × Value) :=
  Field.all.map fun field => (field, s.get field)

/-- The settings as they are from now on. Every field is given its value anew, under the rules for
assignments. -/
def build (s : Settings) : Except Rejection Config :=
  (ofFields .config s.instanceId s.dump).map Config.mk

end Settings

/-- Why a frozen configuration does not take a value: it takes none. -/
def Config.refuse (field : Field) (value : Value) : Rejection :=
  ⟨.config, field, value, .frozen⟩

end LayeredConfig
