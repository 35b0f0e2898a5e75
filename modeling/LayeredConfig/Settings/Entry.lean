import LayeredConfig.Text.Blank
import LayeredConfig.Xml.Node

/-!
Entries: what a configuration file says, in the order in which it says it. Only elements inside the
server sections count, and of an element only its local name and its trimmed text, or for a list
the texts of its items. What is no name, because a colon or brace is left in it, says nothing, and
is found where the name is looked at.
-/

namespace LayeredConfig

open Xml (Node)

/-- One statement of a configuration file. -/
inductive Entry where
  | endpoints (items : List String)
  | workerArguments (items : List String)
  | port (text : String)
  | setting (key text : String)
  /-- An element whose name is none. -/
  | misnamed (name : String)
deriving DecidableEq, Repr

namespace Entry

/-- The text of a node with all that is below it, trimmed. -/
def textOf (node : Node) : String :=
  String.ofList (Text.trimChars node.textInside)

/-- The name of an element if it is none, as it has a colon or a brace in it. -/
def misnamed? (node : Node) : Option String :=
  node.universalName?.filter fun name => name.toList.any fun c => c == ':' || c == '}'

/-- The texts of the children that have a name, in an entry, unless a child is misnamed. -/
def ofItems (entry : List String → Entry) (name : String) (node : Node) : Entry :=
  match node.children.findSome? misnamed? with
  | some name => .misnamed name
  | none => entry ((node.children.filter fun child => child.localName? == some name).map textOf)

/-- What a node of a server section says; only elements say something. -/
def ofNode? (node : Node) : Option Entry :=
  match misnamed? node, node.localName? with
  | some name, _ => some (.misnamed name)
  | none, none => none
  | none, some name =>
    if name = "endpoints" then some (ofItems .endpoints "endpoint" node)
    else if name = "forkedJVMArgs" then some (ofItems .workerArguments "arg" node)
    else if name = "port" then some (.port (textOf node))
    else some (.setting name (textOf node))

/-- What a child of a root says: all that a server section says, and nothing if it is none. -/
def ofSection (node : Node) : List Entry :=
  match misnamed? node with
  | some name => [.misnamed name]
  | none =>
    if node.localName? = some "server" then node.children.filterMap ofNode? else []

def ofRoot (root : Node) : List Entry :=
  root.children.flatMap ofSection

end Entry

end LayeredConfig
