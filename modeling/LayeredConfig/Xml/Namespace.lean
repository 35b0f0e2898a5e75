import LayeredConfig.Xml.Reading
import LayeredConfig.Xml.Uri

/-!
Namespaces: what a start tag declares, what the qualifiers of its names stand for, and the rule that
no two attributes of an element have one name. A qualifier that stands for nothing is an error, and
a part of the name from then on.
-/

namespace LayeredConfig.Xml

/-- The declarations in force, the innermost first: what a qualifier stands for, and what names
without qualifier belong to. -/
abbrev Scope := List (Option String × String)

namespace Scope

/-- The namespace that the qualifier `xml` always stands for. -/
def ofXml : String := "http://www.w3.org/XML/1998/namespace"

def ofDeclarations : String := "http://www.w3.org/2000/xmlns/"

def meaning? (scope : Scope) (qualifier : String) : Option String :=
  if qualifier = "xml" then some ofXml
  else (List.find? (·.1 == some qualifier) scope).map Prod.snd

def default? (scope : Scope) : Option String :=
  ((List.find? (·.1 == none) scope).map Prod.snd).filter (· != "")

def declares (scope : Scope) (qualifier : Option String) : Bool :=
  scope.any (·.1 == qualifier)

end Scope

/-- A start tag as far as it is read, with its attributes in reverse order. -/
structure Tag where
  name : QualifiedName
  attributes : List Attribute
  /-- What the tag itself declares. -/
  declared : Scope

namespace QualifiedName

/-- What a name declares as the name of an attribute: the meaning of a qualifier, or that of names
without one. -/
def declared? (name : QualifiedName) : Option (Option String) :=
  match name.qualifier with
  | none => if name.localPart = "xmlns" then some none else none
  | some qualifier => if qualifier = "xmlns" then some (some name.localPart) else none

def isDeclaration (name : QualifiedName) : Bool :=
  name.declared?.isSome

end QualifiedName

namespace Tag

/-! ### Declarations of a tag -/

/-- Declares a namespace. A tag can do so only once for one qualifier. -/
def push (tag : Tag) (qualifier : Option String) (namespaceName : String) : Reading Tag :=
  if tag.declared.declares qualifier then Reading.refuse
  else pure { tag with declared := (qualifier, namespaceName) :: tag.declared }

def declareDefault (tag : Tag) (site : Site) (value : List Char) : Reading Tag := do
  let namespaceName := String.ofList value
  if value.isEmpty then tag.push none namespaceName
  else
    match Uri.ofChars value with
    | .absolute => pure ()
    | .relative => Reading.warn
    | .invalid => Reading.blame (.invalidNamespace value site)
    if namespaceName = Scope.ofXml || namespaceName = Scope.ofDeclarations then
      Reading.blame .malformed
      pure tag
    else tag.push none namespaceName

def declareQualifier (tag : Tag) (site : Site) (qualifier : String) (value : List Char) :
    Reading Tag := do
  let namespaceName := String.ofList value
  if qualifier = "xml" then
    if namespaceName != Scope.ofXml then Reading.blame .malformed
    pure tag
  else if namespaceName = Scope.ofXml || qualifier = "xmlns" ||
      namespaceName = Scope.ofDeclarations || value.isEmpty then
    Reading.blame .malformed
    pure tag
  else
    if Uri.ofChars value = .invalid then Reading.blame (.invalidNamespace value site)
    tag.push (some qualifier) namespaceName

/-- Whether a value is one of the two that are meant for `xml:space`. -/
def isSpaceValue (value : List Piece) : Bool :=
  let text := value.flatMap Piece.written
  text = "default".toList || text = "preserve".toList

def add (tag : Tag) (site : Site) (a : Attribute) : Reading Tag := do
  let tag := { tag with attributes := a :: tag.attributes }
  match a.name.declared? with
  | some none => tag.declareDefault site (a.value.flatMap Piece.written)
  | some (some qualifier) => tag.declareQualifier site qualifier (a.value.flatMap Piece.written)
  | none =>
    if a.name = ⟨some "xml", "space"⟩ && !isSpaceValue a.value then Reading.warn
    pure tag

/-- Adds the namespaces that are declared by default. The tag itself goes before. -/
def addDefaultScope (tag : Tag) (position : Position) (defaults : List AttributeDeclaration) :
    Reading Tag :=
  defaults.foldlM (fun tag d => do
    match d.name.declared? with
    | some qualifier =>
      Reading.charge position d.octets
      if qualifier = some "xml" || tag.declared.declares qualifier then pure tag
      else
        let value := (d.default.getD []).flatMap Piece.written
        pure { tag with declared := (qualifier, String.ofList value) :: tag.declared }
    | none => pure tag) tag

end Tag

/-! ### Names of attributes -/

/-- The name of an attribute with its namespace; an unknown one is that of a qualifier which stands
for nothing. -/
structure ExpandedName where
  name : QualifiedName
  namespaceName : Option String
  isKnown : Bool
deriving DecidableEq, Repr

namespace ExpandedName

/-- Whether two names are the same, however they are qualified. -/
def sameAs (a b : ExpandedName) : Bool :=
  a.name.localPart == b.name.localPart && a.namespaceName == b.namespaceName

def expand (scope : Scope) (name : QualifiedName) : Reading ExpandedName :=
  match name.qualifier with
  | none => pure ⟨name, none, true⟩
  | some qualifier =>
    match scope.meaning? qualifier with
    | some namespaceName => pure ⟨name, some namespaceName, true⟩
    | none => do
      Reading.blame .malformed
      pure ⟨name, none, false⟩

def final (e : ExpandedName) : QualifiedName :=
  if e.isKnown then e.name else e.name.whole

end ExpandedName

/-- The attributes of a tag that were told apart, with the number of those that differ from an
earlier one by their qualifiers only. -/
structure Distinct where
  names : List ExpandedName
  clashes : Nat

namespace Distinct

/-- An error of two attributes that differ by their qualifiers only. -/
def clash (name : ExpandedName) (site : Site) : Reading Unit :=
  Reading.blame (.repeatedAttribute (name.namespaceName.getD "").toList site)

/-- Adds the name of an attribute of the tag, which may not occur in it twice. -/
def add (site : Site) (seen : Distinct) (name : ExpandedName) : Reading Distinct :=
  match seen.names.find? name.sameAs with
  | none => pure { seen with names := name :: seen.names }
  | some other =>
    if other.name.qualifier = name.name.qualifier then Reading.refuse
    else do
      clash name site
      pure { seen with clashes := seen.clashes + 1 }

/-- Adds the name of an attribute with a default, which yields to one of the tag. -/
def addDefault (position : Position) (seen : Distinct) (name : ExpandedName)
    (d : AttributeDeclaration) : Reading Distinct := do
  match seen.names.find? name.sameAs with
  | none =>
    Reading.charge position d.octets
    pure { seen with names := name :: seen.names }
  | some other =>
    if other.name.qualifier != name.name.qualifier then
      clash name position.site
      Reading.charge position d.octets
    pure seen

end Distinct

def allDifferent {α : Type} [BEq α] : List α → Bool
  | [] => true
  | a :: as => !as.contains a && allDifferent as

/-! ### Identifiers -/

namespace Identifier

/-- Whether a value is a simple name, with blanks around it or without. -/
def isName (value : List Char) : Bool :=
  isSimpleName ((value.dropWhile isSpace).reverse.dropWhile isSpace).reverse

def register (site : Site) (value : List Char) : Reading Unit := do
  let x ← get
  let text := String.ofList value
  if value.isEmpty || x.identifiers.contains text then
    Reading.blame (.repeatedIdentifier value site)
  else set { x with identifiers := text :: x.identifiers }

/-- Registers the value of an attribute if it identifies the element. -/
def note (site : Site) (element : String) (a : Attribute) : Reading Unit := do
  match Piece.characters? a.value with
  | none => pure ()
  | some value =>
    if a.name = ⟨some "xml", "id"⟩ then
      if !isName value then Reading.blame (.invalidIdentifier value site)
      register site value
    else if (← get).declarations.isIdentifier element a.name then register site value

def ofAttribute? (d : Declarations) (element : String) (a : Attribute) : Option String :=
  if a.name = ⟨some "xml", "id"⟩ || d.isIdentifier element a.name then
    ((Piece.characters? a.value).filter (!·.isEmpty)).map String.ofList
  else none

mutual

def ofNode (d : Declarations) : Node → List String
  | .element name _ attributes children =>
    attributes.filterMap (ofAttribute? d name.text) ++ ofNodes d children
  | _ => []

def ofNodes (d : Declarations) : List Node → List String
  | [] => []
  | node :: nodes => ofNode d node ++ ofNodes d nodes

end

/-- Registers the identifiers in nodes that take the place of a reference. That they may occur
before is no fault of theirs. -/
def registerAll (nodes : List Node) : Reading Unit :=
  modify fun x =>
    { x with
      identifiers := (ofNodes x.declarations nodes).foldl (fun ids id => ids.insert id)
        x.identifiers }

end Identifier

/-! ### The end of a tag -/

structure FinishedTag where
  name : QualifiedName
  namespaceName : Option String
  attributes : List Attribute
  /-- The declarations in force inside the element. -/
  scope : Scope

namespace Tag

def finishAttributes (tag : Tag) (position : Position) (scope : Scope)
    (defaults : List AttributeDeclaration) : Reading (List Attribute) := do
  let attributes := tag.attributes.reverse.filter (!·.name.isDeclaration)
  let expanded ← attributes.mapM fun a => ExpandedName.expand scope a.name
  let distinct ← (expanded.filter (·.isKnown)).foldlM (Distinct.add position.site) ⟨[], 0⟩
  let _ ← (defaults.filter (!·.name.isDeclaration)).foldlM (fun seen d => do
    seen.addDefault position (← ExpandedName.expand scope d.name) d) distinct
  let qualified := (attributes.map (·.name)).filter (·.qualifier.isSome)
  if 1 < distinct.clashes && !allDifferent qualified then Reading.refuse
  pure (List.zipWith (fun a e => ⟨e.final, a.value⟩) attributes expanded)

/-- The name of the element as it is in the tree, and the namespace that it belongs to. -/
def finishName (tag : Tag) (scope : Scope) : Reading (QualifiedName × Option String) :=
  match tag.name.qualifier with
  | none => pure (tag.name, scope.default?)
  | some qualifier =>
    match (scope.meaning? qualifier).filter (· != "") with
    | some namespaceName => pure (tag.name, some namespaceName)
    | none => do
      Reading.blame .malformed
      pure (tag.name.whole, none)

/-- Looks at all names of a tag that ends at a position, inside an element with the given scope.
Identifiers count only in the document itself. -/
def finish (tag : Tag) (position : Position) (outer : Scope) : Reading FinishedTag := do
  let defaults := (← get).declarations.defaults tag.name
  let tag ← tag.addDefaultScope position defaults
  let scope := tag.declared ++ outer
  let attributes ← tag.finishAttributes position scope defaults
  let (name, namespaceName) ← tag.finishName scope
  if position.outer.isNone then
    attributes.forM (Identifier.note position.site tag.name.text)
  pure ⟨name, namespaceName, attributes, scope⟩

end Tag

end LayeredConfig.Xml
