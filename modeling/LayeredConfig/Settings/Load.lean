import LayeredConfig.Settings.Binding
import LayeredConfig.Settings.Entry
import LayeredConfig.Xml.Document

/-!
Loading: the settings that a configuration file makes of the built-in ones. Its entries are applied
in order, and the two forms of the port are reconciled once at the end.
-/

namespace LayeredConfig

/-- Reads the octets of a file, or says why it cannot. -/
abbrev Files := Storage.Path → Except Storage.ReadFault (List UInt8)

namespace Settings

/-- Reconciles the two forms of the port. The text decides: one that is a numeral becomes the port,
one that is blank or absent leaves the port alone, and any other text is kept, since something
outside may still replace it. A host must be there. -/
def reconcile (s : Settings) : Logged ConfigFault Settings :=
  match s.host, s.portText with
  | none, _ => .fail .missingHost
  | some _, none => pure s
  | some _, some text =>
    if Text.isBlankText text then pure s
    else
      match Number.parse? text with
      | some n => pure { s with port := n }
      | none => ⟨[.portLeftAsText text], .ok s⟩

/-- The settings after one entry. A setting without text is passed over; the items of lists and the
text of the port are kept as they are. -/
def enter (s : Settings) : Entry → Logged ConfigFault Settings
  | .endpoints items => pure (s.extend .endpoints items)
  | .workerArguments items => pure (s.extend .workerArguments items)
  | .port text => pure { s with portText := some text }
  | .setting key text => if text = "" then pure s else s.bindKey key text
  | .misnamed name => .fail (.invalidName name)

def enterAll (s : Settings) (entries : List Entry) : Logged ConfigFault Settings :=
  entries.foldlM enter s

def ofTree (instanceId : String) (root : Xml.Node) : Logged ConfigFault Settings :=
  match Entry.misnamed? root with
  | some name => .fail (.invalidName name)
  | none =>
    if root.localName? = some "properties" then do
      ((← (defaults instanceId).enterAll (Entry.ofRoot root)).reconcile)
    else .fail (.unexpectedRoot root.localName?)

/-- The settings of a new instance that a document describes. Its guarded tree is taken, so that no
content of an entity becomes a setting. -/
def ofOctets (instanceId documentName : String) (octets : List UInt8) :
    Logged ConfigFault Settings :=
  match Xml.readGuarded octets with
  | .ok root => ofTree instanceId root
  | .error fault => .fail (.illFormed (fault.details documentName))

def ofFile (files : Files) (instanceId : String) (path : Storage.Path) :
    Logged ConfigFault Settings := do
  .report (.loading path)
  if path.text.toList.contains '\x00' then .fail .nulInPath
  else
    match files path with
    | .ok octets => ofOctets instanceId path.lastName octets
    | .error cause => .fail (.unreadable path cause)

end Settings

end LayeredConfig
