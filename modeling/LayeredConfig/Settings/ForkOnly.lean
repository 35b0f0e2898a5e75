import LayeredConfig.Settings.Binding

/-!
Settings that matter only to a server that forks a worker, and the report of those that were
changed from their built-in values. Two of them have no binding, since a file cannot set them.
-/

namespace LayeredConfig

/-- The keys of the settings for forking, in the order of the report. -/
def forkOnlyKeys : List String :=
  ["taskTimeoutMillis", "taskPulseMillis", "pingTimeoutMillis", "pingPulseMillis", "maxFiles",
    "maxRestarts", "numRestarts", "forkedStatusFile", "maxForkedStartupMillis", "tmpFilePrefix"]

/-- The keys that only the command line sets, with their fields. -/
def optionFields : List (String × Field) :=
  [("numRestarts", .restartCount), ("forkedStatusFile", .statusFile)]

/-- The field that a key sets, in the file or else on the command line. -/
def Field.ofKey? (key : String) : Option Field :=
  ((Binding.ofKey? key).map Binding.field).or (optionFields.lookup key)

def forkOnly : List (String × Field) :=
  forkOnlyKeys.filterMap fun key => (Field.ofKey? key).map (key, ·)

namespace Config

/-- Whether a field has another value than the built-in one. -/
def isChanged (config : Config) (field : Field) : Bool :=
  config.settings.get field != (Settings.defaults config.id).get field

/-- Those of some keys whose settings differ from the built-in ones, unless one of the keys sets no
field. -/
def changedAmong? (config : Config) : List String → Option (List String)
  | [] => some []
  | key :: keys => do
    let field ← Field.ofKey? key
    let changed ← config.changedAmong? keys
    pure (if config.isChanged field then key :: changed else changed)

/-- The keys for forking whose settings differ from the built-in ones. -/
def changedForkOnly (config : Config) : List String :=
  (config.changedAmong? forkOnlyKeys).getD []

end Config

end LayeredConfig
