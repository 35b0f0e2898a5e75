import LayeredConfig.Xml.Doctype
import LayeredConfig.Xml.DoctypeExtent
import LayeredConfig.Xml.Namespace

/-!
The reader of a document's characters. It goes through them once, from the end of the declaration
on, and keeps the elements that are open, the text that is pending, and the piece of markup that it
stands in. The text of an entity is read in the same way when the entity is first referred to. The
depth of elements and the length of names have limits, and so has what references may stand for. The
limit of ten million octets on a single text, value, comment or instruction is left out.
-/

namespace LayeredConfig.Xml

/-- An element whose end is not read. Its children are in reverse order. -/
structure OpenElement where
  name : QualifiedName
  namespaceName : Option String
  attributes : List Attribute
  /-- The declarations in force inside it. -/
  scope : Scope
  children : List Node

structure OpenAttribute where
  tag : Tag
  name : QualifiedName

/-- What the reader stands in. Characters and pieces that belong together are kept last one
first. -/
inductive Mode where
  /-- Between markup, after the given number of closing brackets, at most two. -/
  | content (brackets : Nat)
  /-- After `<`. -/
  | opening
  /-- After `<!` and the given characters, these in order. -/
  | bang (seen : List Char)
  | comment (state : CommentState)
  | characters (reversed : List Char)
  | target (reversed : List Char)
  /-- After a target and a question mark. -/
  | targetEnd (target : String)
  | instruction (target : String) (reversed : List Char)
  | reference (state : ReferenceState)
  | tagName (reversed : List Char)
  /-- Between attributes, or not yet divided from the last one by a blank. -/
  | tag (tag : Tag) (divided : Bool)
  | attributeName (tag : Tag) (reversed : List Char)
  /-- Before the equals sign of an attribute. -/
  | attributeSign (opened : OpenAttribute)
  /-- Before the quotation mark of an attribute. -/
  | attributeMark (opened : OpenAttribute)
  | attributeValue (opened : OpenAttribute) (mark : Char) (state : ValueState)
  /-- After the slash of an empty element. -/
  | emptyTag (tag : Tag)
  | endName (reversed : List Char)
  /-- Between the name of an end tag and its last character. -/
  | endSpace (name : List Char)
  /-- Inside a document type declaration, which began at the given position. -/
  | doctype (start : Position) (extent : DoctypeExtent) (reversed : List Char)
  /-- After the end, where nothing is looked at. -/
  | ended

/-- How far the reading of a text has come. -/
structure Reader where
  position : Position
  /-- The number of elements that are open around the text. -/
  depth : Nat
  /-- The open elements, the innermost first. -/
  elements : List OpenElement
  root : Option Node
  hasDoctype : Bool
  /-- The text since the last markup, last character first. -/
  pending : List Char
  mode : Mode

namespace Reader

def start (position : Position) : Reader :=
  ⟨position, 0, [], none, false, [], .content 0⟩

/-- The greatest number of elements that may be open at once. -/
def depthLimit : Nat := 256

/-- The reader at the beginning of an entity's text, which is read as if it were the content of an
element of its own. -/
def enter (r : Reader) (entityName : String) : Reader :=
  ⟨r.position.enter (.entity entityName), r.depth + r.elements.length,
    [⟨⟨none, ""⟩, none, [], [], []⟩], none, true, [], .content 0⟩

/-! ### Changes of the reader -/

def turn (r : Reader) (mode : Mode) : Reader :=
  { r with mode := mode }

def scope (r : Reader) : Scope :=
  match r.elements with
  | [] => []
  | e :: _ => e.scope

/-- Adds a node to the innermost open element; outside the root there is nothing to add to. -/
def addChild (r : Reader) (node : Node) : Reader :=
  match r.elements with
  | [] => r
  | e :: es => { r with elements := { e with children := node :: e.children } :: es }

def flush (r : Reader) : Reader :=
  if r.pending.isEmpty then r
  else { r.addChild (.text (String.ofList r.pending.reverse)) with pending := [] }

def addCharacter (r : Reader) (c : Char) : Reader :=
  { r with pending := c :: r.pending }

/-- Places a finished element, which is the root if no other is open. -/
def addElement (r : Reader) (node : Node) : Reader :=
  match r.elements with
  | [] => { r with root := some node, mode := .content 0 }
  | _ => (r.addChild node).turn (.content 0)

def checkDepth (r : Reader) : Reading Unit :=
  if r.depth + r.elements.length < depthLimit then pure () else Reading.refuse

def openElement (r : Reader) (tag : Tag) : Reading Reader := do
  let tag ← tag.finish r.position r.scope
  r.checkDepth
  pure { r with
    elements := ⟨tag.name, tag.namespaceName, tag.attributes, tag.scope, []⟩ :: r.elements
    mode := .content 0 }

/-- Opens and closes the element of an empty tag, whose slash stands before this position. -/
def addEmptyElement (r : Reader) (tag : Tag) : Reading Reader := do
  let tag ← tag.finish (r.position.back 1) r.scope
  r.checkDepth
  pure (r.addElement (.element tag.name tag.namespaceName tag.attributes []))

/-- Closes the innermost element, whose name must be the given one. -/
def closeElement (r : Reader) (name : List Char) : Reading Reader :=
  match r.elements with
  | [] => Reading.refuse
  | e :: es =>
    if e.name.text = String.ofList name then
      pure ({ r with elements := es }.addElement
        (.element e.name e.namespaceName e.attributes e.children.reverse))
    else Reading.refuse

def refuseCharacter {α : Type} (r : Reader) (c : Char) : Reading α :=
  Reading.fail (if c = '\x00' then .nulCharacter r.position.site else .malformed)

/-- What comes after the end of a text is a fault, but it is not looked at if there is an error
already. -/
def leave (r : Reader) : Reading Reader := do
  if (← get).findings.fault.isSome then pure (r.turn .ended) else Reading.refuse

/-- Whether the text is read to an end tag that belongs to none of its elements. -/
def isOutside (r : Reader) : Bool :=
  if r.position.outer.isSome then r.elements.length ≤ 1 else r.root.isSome && r.elements.isEmpty

/-! ### References in content -/

/-- How the text of an entity is read: it gives the nodes that the text consists of. -/
abbrev EntityReader := Reader → List Char → Reading (List Node)

/-- The nodes of an entity. Its text is read when they are first asked for, and again as long as
there are none. -/
def nodesOf (readEntity : EntityReader) (r : Reader) (e : Entity) (text : List Char) :
    Reading (List Node) := do
  match e.nodes with
  | some (node :: nodes) => pure (node :: nodes)
  | _ =>
    if r.position.texts.contains (.entity e.name) || r.position.room = 0 then Reading.refuse
    r.checkDepth
    let nodes ← readEntity (r.enter e.name) (joinLineEnds text)
    let nodes := if (← readThe EntityPolicy) = .keep then Node.dropRemarks nodes else nodes
    Reading.declare (·.updateEntity e.name fun e =>
      { e with
        nodes := some nodes, isCounted := true,
        size := if e.isCounted then e.size else e.size + octetCount text })
    pure nodes

/-- Puts a reference into the content, or what it stands for. -/
def refer (readEntity : EntityReader) (r : Reader) (name : String) : Reading Reader := do
  let policy ← readThe EntityPolicy
  match ← Reading.findEntity name with
  | none => pure (if policy = .keep then r.flush.addChild (.reference name) else r)
  | some e =>
    let nodes ←
      match e.definition with
      | .internal text => r.nodesOf readEntity e text
      | _ => pure []
    Reading.charge r.position (((← get).declarations.entity? name).elim 0 (·.size))
    match policy with
    | .keep => pure (r.flush.addChild (.reference name))
    | .replace =>
      Identifier.registerAll nodes
      pure (nodes.foldl addChild r.flush)

/-! ### One character in each mode -/

def readContent (r : Reader) (brackets : Nat) (c : Char) : Reading Reader :=
  if c = '<' then pure (r.flush.turn .opening)
  else if r.elements.isEmpty then
    if isSpace c then pure r else if r.root.isSome then r.leave else Reading.refuse
  else if c = '&' then pure (r.turn (.reference .start))
  else if c = ']' then pure ((r.addCharacter c).turn (.content (min 2 (brackets + 1))))
  else if c = '>' && brackets == 2 then Reading.refuse
  else if isLegal c then pure ((r.addCharacter c).turn (.content 0))
  else r.refuseCharacter c

def readOpening (r : Reader) (c : Char) : Reading Reader :=
  if c = '!' then pure (r.turn (.bang []))
  else if c = '?' then pure (r.turn (.target []))
  else if c = '/' then
    if r.isOutside then r.leave
    else if r.elements.isEmpty then Reading.refuse
    else pure (r.turn (.endName []))
  else if r.elements.isEmpty && r.root.isSome then r.leave
  else if isColonNameStart c then pure (r.turn (.tagName [c]))
  else r.refuseCharacter c

def readBang (r : Reader) (seen : List Char) (c : Char) : Reading Reader :=
  let seen := seen ++ [c]
  if seen = ['-', '-'] then pure (r.turn (.comment (.ascii [] 0)))
  else if seen = "[CDATA[".toList && !r.elements.isEmpty then pure (r.turn (.characters []))
  else if seen = "DOCTYPE".toList && r.elements.isEmpty && r.root.isNone && !r.hasDoctype then
    pure { r with hasDoctype := true, mode := .doctype (r.position.next c) .outside [] }
  else if seen.isPrefixOf ['-'] || seen.isPrefixOf "[CDATA".toList ||
      seen.isPrefixOf "DOCTYP".toList then
    pure (r.turn (.bang seen))
  else if r.elements.isEmpty && r.root.isSome then r.leave
  else Reading.refuse

def readComment (r : Reader) (state : CommentState) (c : Char) : Reading Reader := do
  match ← Reading.ofExcept (state.step r.position c) with
  | .unfinished state => pure (r.turn (.comment state))
  | .finished content => pure ((r.addChild (.comment (String.ofList content))).turn (.content 0))

/-- The fault of a character section that ends too early, which quotes all but the last two of its
characters. -/
def charactersFault (r : Reader) (reversed : List Char) : Fault :=
  if 2 ≤ reversed.length then .unfinishedSection (reversed.drop 2).reverse r.position.site
  else .malformed

def readCharacters (r : Reader) (reversed : List Char) (c : Char) : Reading Reader :=
  if c = '>' && reversed.take 2 == [']', ']'] then
    pure { r with pending := reversed.drop 2 ++ r.pending, mode := .content 0 }
  else if c = '\x00' then r.refuseCharacter c
  else if isLegal c then pure (r.turn (.characters (c :: reversed)))
  else Reading.fail (r.charactersFault reversed)

def readTarget (r : Reader) (reversed : List Char) (c : Char) : Reading Reader :=
  if if reversed.isEmpty then isColonNameStart c else isColonNamePart c then
    pure (r.turn (.target (c :: reversed)))
  else if reversed.isEmpty || c = '\x00' then r.refuseCharacter c
  else do
    Instruction.checkTarget reversed.reverse
    if isSpace c then pure (r.turn (.instruction (String.ofList reversed.reverse) []))
    else if c = '?' then pure (r.turn (.targetEnd (String.ofList reversed.reverse)))
    else Reading.refuse

def addInstruction (r : Reader) (target : String) (data : List Char) : Reader :=
  (r.addChild (.instruction target (String.ofList data))).turn (.content 0)

def readInstruction (r : Reader) (target : String) (reversed : List Char) (c : Char) :
    Reading Reader :=
  if c = '>' && reversed.head? == some '?' then
    pure (r.addInstruction target (reversed.drop 1).reverse)
  else if reversed.isEmpty && isSpace c then pure r
  else if isLegal c then pure (r.turn (.instruction target (c :: reversed)))
  else r.refuseCharacter c

def readReference (readEntity : EntityReader) (r : Reader) (state : ReferenceState) (c : Char) :
    Reading Reader := do
  match ← Reading.ofExcept (state.step r.position.site c) with
  | .unfinished state => pure (r.turn (.reference state))
  | .finished (.character c) => pure ((r.addCharacter c).turn (.content 0))
  | .finished (.reference name) =>
    let after := { r with position := r.position.next c }
    pure ((← after.refer readEntity name).turn (.content 0))

/-- One character inside a start tag, where an attribute may begin after a blank. -/
def readTag (r : Reader) (tag : Tag) (divided : Bool) (c : Char) : Reading Reader :=
  if isSpace c then pure (r.turn (.tag tag true))
  else if c = '>' then r.openElement tag
  else if c = '/' then pure (r.turn (.emptyTag tag))
  else if divided && isColonNameStart c then pure (r.turn (.attributeName tag [c]))
  else Reading.refuse

/-- The name that a tag or attribute has by the characters of its name. One that a colon does not
divide into two names is an error, and names may not be too long. -/
def readName (reversed : List Char) : Reading QualifiedName := do
  let cs := reversed.reverse
  match QualifiedName.ofChars? cs with
  | some name =>
    if isOverlong name.localPart.toList || isOverlong (name.qualifier.getD "").toList then
      Reading.refuse
    pure name
  | none =>
    if isOverlong cs then Reading.refuse
    Reading.blame .malformed
    pure (.ofChars cs)

def readTagName (r : Reader) (reversed : List Char) (c : Char) : Reading Reader :=
  if isColonNamePart c then pure (r.turn (.tagName (c :: reversed)))
  else if c = '\x00' then r.refuseCharacter c
  else do r.readTag ⟨← readName reversed, [], []⟩ false c

def readAttributeSign (r : Reader) (opened : OpenAttribute) (c : Char) : Reading Reader :=
  if isSpace c then pure (r.turn (.attributeSign opened))
  else if c = '=' then pure (r.turn (.attributeMark opened))
  else Reading.refuse

def readAttributeName (r : Reader) (tag : Tag) (reversed : List Char) (c : Char) :
    Reading Reader :=
  if isColonNamePart c then pure (r.turn (.attributeName tag (c :: reversed)))
  else if c = '\x00' then r.refuseCharacter c
  else do r.readAttributeSign ⟨tag, ← readName reversed⟩ c

def readAttributeMark (r : Reader) (opened : OpenAttribute) (c : Char) : Reading Reader :=
  if isSpace c then pure r
  else if c = '"' || c = '\'' then pure (r.turn (.attributeValue opened c .start))
  else Reading.refuse

def addAttribute (r : Reader) (opened : OpenAttribute) (pieces : List Piece) : Reading Reader := do
  let x ← get
  let value :=
    if x.declarations.isCollapsed opened.tag.name.text opened.name.text then Piece.collapse pieces
    else pieces
  pure (r.turn (.tag (← opened.tag.add r.position.site ⟨opened.name, value⟩) false))

def readAttributeValue (r : Reader) (opened : OpenAttribute) (mark : Char) (state : ValueState)
    (c : Char) : Reading Reader := do
  let after := { r with position := r.position.next c }
  if state.reference.isNone && c == mark then after.addAttribute opened state.reversed.reverse
  else
    let resolve := Value.resolve after.position false opened.name.isDeclaration
    pure (r.turn (.attributeValue opened mark (← state.step r.position.site resolve c)))

def readEndName (r : Reader) (reversed : List Char) (c : Char) : Reading Reader :=
  if isColonNamePart c then pure (r.turn (.endName (c :: reversed)))
  else if c = '>' then r.closeElement reversed.reverse
  else if isSpace c then pure (r.turn (.endSpace reversed.reverse))
  else r.refuseCharacter c

def readEndSpace (r : Reader) (name : List Char) (c : Char) : Reading Reader :=
  if isSpace c then pure r
  else if c = '>' then r.closeElement name
  else Reading.refuse

def readDoctype (r : Reader) (start : Position) (extent : DoctypeExtent) (reversed : List Char)
    (c : Char) : Reading Reader :=
  match extent.next c with
  | some extent => pure (r.turn (.doctype start extent (c :: reversed)))
  | none => do
    Xml.readDoctype start reversed.reverse
    pure (r.turn (.content 0))

/-! ### All modes together -/

def readMeant (readEntity : EntityReader) (r : Reader) (c : Char) : Reading Reader :=
  match r.mode with
  | .content brackets => r.readContent brackets c
  | .opening => r.readOpening c
  | .bang seen => r.readBang seen c
  | .characters reversed => r.readCharacters reversed c
  | .target reversed => r.readTarget reversed c
  | .targetEnd target =>
    if c = '>' then pure (r.addInstruction target []) else Reading.refuse
  | .instruction target reversed => r.readInstruction target reversed c
  | .reference state => r.readReference readEntity state c
  | .tagName reversed => r.readTagName reversed c
  | .tag tag divided => r.readTag tag divided c
  | .attributeName tag reversed => r.readAttributeName tag reversed c
  | .attributeSign opened => r.readAttributeSign opened c
  | .attributeMark opened => r.readAttributeMark opened c
  | .attributeValue opened mark state => r.readAttributeValue opened mark state c
  | .emptyTag tag => if c = '>' then r.addEmptyElement tag else Reading.refuse
  | .endName reversed => r.readEndName reversed c
  | .endSpace name => r.readEndSpace name c
  | .comment _ | .doctype .. | .ended => pure r

def read (readEntity : EntityReader) (r : Reader) (c : Char) : Reading Reader :=
  match r.mode with
  | .comment state => r.readComment state c
  | .doctype start extent reversed => r.readDoctype start extent reversed c
  | _ => r.readMeant readEntity (meant c)

def step (readEntity : EntityReader) (r : Reader) (c : Char) : Reading Reader :=
  return { ← r.read readEntity c with position := r.position.next c }

def run (readEntity : EntityReader) (r : Reader) (cs : List Char) : Reading Reader :=
  cs.foldlM (step readEntity) r

theorem run_append (readEntity : EntityReader) (r : Reader) (first second : List Char) :
    r.run readEntity (first ++ second) =
      r.run readEntity first >>= fun next => next.run readEntity second :=
  List.foldlM_append

/-! ### The end of a text -/

def refuseEnd {α : Type} (r : Reader) : Reading α :=
  match r.mode with
  | .comment state => Reading.fail (state.faultAtEnd r.position)
  | .characters reversed => Reading.fail (r.charactersFault reversed)
  | .doctype start _ reversed => do
    Xml.readDoctype start reversed.reverse
    Reading.refuse
  | _ => Reading.refuse

/-- Ends the reading at an octet that stands for no character, unless nothing is looked at. -/
def refuseOctet (r : Reader) : Reading Unit :=
  match r.mode with
  | .comment (.ascii reversed hyphens) =>
    Reading.fail ((CommentState.ascii reversed hyphens).faultAtEnd r.position)
  | .doctype start _ reversed => do
    Xml.readDoctype start ('\uFFFF' :: reversed).reverse
    Reading.refuse
  | .ended => pure ()
  | _ => Reading.refuse

def finish (r : Reader) : Reading Node :=
  match r.mode, r.elements, r.root with
  | .content _, [], some root | .ended, _, some root => pure root
  | _, _, _ => r.refuseEnd

def finishInside (r : Reader) : Reading (List Node) :=
  match r.mode, r.flush.elements with
  | .content _, [e] | .ended, [e] => pure e.children.reverse
  | _, _ => r.refuseEnd

/-- Reads the text of an entity, in which `room` more texts may be opened. -/
def readEntity : (room : Nat) → EntityReader
  | 0, _, _ => Reading.refuse
  | room + 1, r, cs => do (← r.run (readEntity room) cs).finishInside

end Reader

end LayeredConfig.Xml
