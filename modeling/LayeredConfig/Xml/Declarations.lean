import LayeredConfig.Xml.Node

/-!
What a document type declaration declares: entities, and the attributes of elements with their
types and defaults. Of two declarations of one thing the first counts.
-/

namespace LayeredConfig.Xml

/-- What an entity stands for. -/
inductive EntityDefinition where
  | internal (replacement : List Char)
  | external
  | unparsed
deriving DecidableEq, Repr

/-- An entity with what is known about its replacement text. -/
structure Entity where
  name : String
  definition : EntityDefinition
  /-- The nodes of the text, once it is read as content. -/
  nodes : Option (List Node)
  /-- Whether the text may stand in an attribute's value, once that is looked at. -/
  isChecked : Bool
  /-- The octets that a reference stands for, as far as they are counted. -/
  size : Nat
  /-- Whether all octets are counted. -/
  isCounted : Bool

/-- An entity for use in the document type declaration, with its text unless that is stored
elsewhere. -/
structure Parameter where
  name : String
  replacement : Option (List Char)
  size : Nat
  isCounted : Bool
deriving DecidableEq, Repr

/-- What the value of an attribute consists of. -/
inductive AttributeType where
  | text
  /-- One name, which no other element has as its identifier. -/
  | identifier
  | name
  | names
  /-- One run of characters that names go on with. -/
  | token
  | tokens
deriving DecidableEq, Repr

namespace AttributeType

def isToken (cs : List Char) : Bool :=
  !cs.isEmpty && cs.all isColonNamePart

/-- Whether a value that was freed from needless spaces is of a type. -/
def accepts (type : AttributeType) (cs : List Char) : Bool :=
  match type with
  | .text => true
  | .identifier | .name => isColonName cs
  | .names => (cs.splitOn ' ').all isColonName
  | .token => isToken cs
  | .tokens => ((cs.dropWhile isSpace).splitOn ' ').all isToken

end AttributeType

structure AttributeDeclaration where
  element : QualifiedName
  name : QualifiedName
  type : AttributeType
  default : Option (List Piece)
deriving DecidableEq, Repr

namespace AttributeDeclaration

/-- The octets that the default adds to an element. -/
def octets (d : AttributeDeclaration) : Nat :=
  d.name.octets + octetCount ((d.default.getD []).flatMap Piece.written)

end AttributeDeclaration

/-- All declarations, the last one first. -/
structure Declarations where
  entities : List Entity
  parameters : List Parameter
  attributes : List AttributeDeclaration
  /-- The elements whose content is declared. -/
  elements : List String
  notations : List String

namespace Declarations

def none : Declarations :=
  ⟨[], [], [], [], []⟩

def entity? (d : Declarations) (name : String) : Option Entity :=
  d.entities.find? (·.name == name)

def parameter? (d : Declarations) (name : String) : Option Parameter :=
  d.parameters.find? (·.name == name)

/-- The declaration of an attribute by the names as they are written. -/
def attribute? (d : Declarations) (element name : String) : Option AttributeDeclaration :=
  d.attributes.find? fun a => a.element.text == element && a.name.text == name

/-- Whether a value of an attribute is taken without needless spaces. -/
def isCollapsed (d : Declarations) (element name : String) : Bool :=
  (d.attribute? element name).any (·.type != .text)

def isIdentifier (d : Declarations) (element : String) (name : QualifiedName) : Bool :=
  d.attributes.any fun a =>
    a.element.text == element && a.name == name && a.type == .identifier

def defaults (d : Declarations) (element : QualifiedName) : List AttributeDeclaration :=
  (d.attributes.filter fun a => a.element == element && a.default.isSome).reverse

def updateEntity (d : Declarations) (name : String) (change : Entity → Entity) : Declarations :=
  { d with entities := d.entities.map fun e => if e.name = name then change e else e }

def updateParameter (d : Declarations) (name : String) (change : Parameter → Parameter) :
    Declarations :=
  { d with parameters := d.parameters.map fun p => if p.name = name then change p else p }

end Declarations

end LayeredConfig.Xml
