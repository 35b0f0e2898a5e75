import LayeredConfig.Xml.Character

/-!
The tree of a document. References to entities stay in it as nodes of their own, so that nothing of
an entity's content is in the tree unless it is put there by expansion.
-/

namespace LayeredConfig.Xml

/-- A name, divided at its colon. -/
structure QualifiedName where
  qualifier : Option String
  localPart : String
deriving DecidableEq, Repr

namespace QualifiedName

/-- The name that characters write: at most one colon, with a simple name on each side of it. -/
def ofChars? (cs : List Char) : Option QualifiedName :=
  let front := cs.takeWhile (· != ':')
  match cs.dropWhile (· != ':') with
  | [] => if isSimpleName front then some ⟨none, String.ofList front⟩ else none
  | _ :: back =>
    if isSimpleName front && isSimpleName back then
      some ⟨some (String.ofList front), String.ofList back⟩
    else none

def text (name : QualifiedName) : String :=
  match name.qualifier with
  | none => name.localPart
  | some qualifier => qualifier ++ ":" ++ name.localPart

/-- A name that is taken as a whole, colons included. -/
def whole (name : QualifiedName) : QualifiedName :=
  ⟨none, name.text⟩

/-- The name that characters write. Where a colon does not divide two simple names, all characters
make the local part. -/
def ofChars (cs : List Char) : QualifiedName :=
  (ofChars? cs).getD ⟨none, String.ofList cs⟩

/-- Characters divided at their first colon, whatever stands on its sides, unless they begin with
it. -/
def divide (cs : List Char) : QualifiedName :=
  match cs.takeWhile (· != ':'), cs.dropWhile (· != ':') with
  | c :: front, _ :: back => ⟨some (String.ofList (c :: front)), String.ofList back⟩
  | _, _ => ⟨none, String.ofList cs⟩

def octets (name : QualifiedName) : Nat :=
  (name.qualifier.getD "").utf8ByteSize + name.localPart.utf8ByteSize

end QualifiedName

/-- A part of an attribute's value. -/
inductive Piece where
  | character (c : Char)
  | reference (name : String)
deriving DecidableEq, Repr

namespace Piece

def written : Piece → List Char
  | .character c => [c]
  | .reference name => '&' :: name.toList ++ [';']

def character? : Piece → Option Char
  | .character c => some c
  | .reference _ => none

def characters? (pieces : List Piece) : Option (List Char) :=
  pieces.mapM character?

/-- Pieces without the spaces at their ends and with single spaces between them. -/
def collapse (pieces : List Piece) : List Piece :=
  let spaced := pieces.foldl (fun reversed piece =>
    if piece = .character ' ' && (reversed.isEmpty || reversed.head? = some piece) then reversed
    else piece :: reversed) []
  (if spaced.head? = some (.character ' ') then spaced.tail else spaced).reverse

end Piece

structure Attribute where
  name : QualifiedName
  value : List Piece
deriving DecidableEq, Repr

inductive Node where
  /-- An element. Its name may belong to a namespace. -/
  | element (name : QualifiedName) (namespaceName : Option String) (attributes : List Attribute)
      (children : List Node)
  | text (content : String)
  | comment (content : String)
  | instruction (target data : String)
  | reference (name : String)

namespace Node

/-- The local part of an element's name, colons included where they divide no names; other nodes
have none. -/
def localName? : Node → Option String
  | .element name _ _ _ => some name.localPart
  | _ => none

/-- The name of an element as it is read off its universal name, which is the namespace between
braces and the local part: what follows the first closing brace. -/
def universalName? : Node → Option String
  | .element name none _ _ => some name.localPart
  | .element name (some namespaceName) _ _ =>
    let universal := '{' :: namespaceName.toList ++ '}' :: name.localPart.toList
    some (String.ofList ((universal.dropWhile (· != '}')).drop 1))
  | _ => none

theorem universalName?_of_not_mem {namespaceName : String} (h : '}' ∉ namespaceName.toList)
    (name : QualifiedName) (attributes : List Attribute) (children : List Node) :
    (element name (some namespaceName) attributes children).universalName? =
      some name.localPart := by
  have hpos : ∀ c ∈ '{' :: namespaceName.toList, (c != '}') = true := by
    intro c hc
    rcases List.mem_cons.1 hc with rfl | hc
    · decide
    · exact bne_iff_ne.2 fun e => h (e ▸ hc)
  simp only [universalName?, List.dropWhile_append_of_pos hpos]
  simp

def children : Node → List Node
  | .element _ _ _ children => children
  | _ => []

/-- Whether a node is a remark, which carries no content. -/
def isRemark : Node → Bool
  | .comment _ | .instruction _ _ => true
  | _ => false

mutual

/-- The text inside a node: that of all its descendants in order, where a reference stands for
itself and remarks have no text. -/
def textInside : Node → List Char
  | .element _ _ _ children => textOfAll children
  | .text content => content.toList
  | .comment _ => []
  | .instruction _ _ => []
  | .reference name => '&' :: name.toList ++ [';']

def textOfAll : List Node → List Char
  | [] => []
  | node :: nodes => textInside node ++ textOfAll nodes

end

theorem textOfAll_append (first second : List Node) :
    textOfAll (first ++ second) = textOfAll first ++ textOfAll second := by
  induction first with
  | nil => rfl
  | cons node nodes ih => simp [textOfAll, ih]

mutual

/-- A node without the remarks below it. -/
def withoutRemarks : Node → Node
  | .element name namespaceName attributes children =>
    .element name namespaceName attributes (dropRemarks children)
  | node => node

def dropRemarks : List Node → List Node
  | [] => []
  | node :: nodes =>
    if node.isRemark then dropRemarks nodes else withoutRemarks node :: dropRemarks nodes

end

end Node

end LayeredConfig.Xml
