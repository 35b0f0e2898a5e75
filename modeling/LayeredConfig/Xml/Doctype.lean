import LayeredConfig.Xml.Comment
import LayeredConfig.Xml.Value

/-!
The document type declaration: its grammar, and what its internal subset declares. It is read from
its first character to its last, so that each declaration is known to those after it. A parameter
puts whole declarations in its place.
-/

namespace LayeredConfig.Xml

structure Source where
  position : Position
  rest : List Char

/-- A way to read something off the front of a source. -/
abbrev Scan (α : Type) := StateT Source Reading α

namespace Scan

/-! ### Small scans -/

/-- Ends the reading for a reason of one line. -/
def refuse {α : Type} : Scan α :=
  fun _ => Reading.refuse

/-- The next character, which stays. -/
def next? : Scan (Option Char) :=
  return (← get).rest.head?

def takeWhile (allowed : Char → Bool) : Scan (List Char) :=
  modifyGet fun s =>
    let front := s.rest.takeWhile allowed
    (front, ⟨s.position.afterAll front, s.rest.dropWhile allowed⟩)

def skip (count : Nat) : Scan Unit :=
  modify fun s => ⟨s.position.afterAll (s.rest.take count), s.rest.drop count⟩

/-- Reads blanks, and says whether there are any. -/
def blanks : Scan Bool :=
  return !(← takeWhile isSpace).isEmpty

def gap : Scan Unit := do
  if !(← blanks) then refuse

/-- Reads the given characters if they stand here, and says whether they do. -/
def accept (text : String) : Scan Bool := do
  if text.toList.isPrefixOf (← get).rest then
    skip text.length
    pure true
  else pure false

def expect (text : String) : Scan Unit := do
  if !(← accept text) then refuse

def refuseCharacter {α : Type} : Scan α := do
  if (← next?) = some '\x00' then Reading.fail (.nulCharacter (← get).position.site)
  else refuse

/-- Reads one or more characters of a class, as long as names may be and not with a NUL behind. -/
def word (allowed : Char → Bool) : Scan String := do
  let cs ← takeWhile allowed
  if cs.isEmpty || (← next?) = some '\x00' then refuseCharacter
  else if isOverlong cs then refuse
  else pure (String.ofList cs)

def name : Scan String := do
  if (← next?).any isColonNameStart then word isColonNamePart else refuseCharacter

/-- Reads a name in which a colon is an error. -/
def plainName : Scan String := do
  let text ← name
  if text.toList.contains ':' then Reading.blame .malformed
  pure text

def mark : Scan Char := do
  match ← next? with
  | some c => if c = '"' || c = '\'' then do skip 1; pure c else refuse
  | none => refuse

def quoted (allowed : Char → Bool) : Scan (List Char) := do
  let c ← mark
  let content ← takeWhile fun d => allowed d && d != c
  expect (String.singleton c)
  pure content

/-! ### Parts of declarations -/

def isPublicCharacter (c : Char) : Bool :=
  c == ' ' || c == '\n' || c == '\r' || c.isAlphanum ||
    "-'()+,./:=?;!*#@$_%".toList.contains c

def systemLiteral : Scan (List Char) := do
  let c ← mark
  let content ← takeWhile fun d => isLegal d && d != c
  if (← next?) != some c then refuseCharacter
  else if isOverlong content then refuse
  else do skip 1; pure content

def publicLiteral : Scan Unit := do
  if isOverlong (← quoted isPublicCharacter) then refuse

/-- Reads where something is stored, if that is said here, and gives the system identifier. -/
def externalId? : Scan (Option (List Char)) := do
  if ← accept "SYSTEM" then
    gap
    return some (← systemLiteral)
  else if ← accept "PUBLIC" then
    gap; publicLiteral; gap
    return some (← systemLiteral)
  else pure none

/-- Reads how often a part of an element may occur. -/
def occurrence : Scan Unit := do
  if (← next?).any fun c => c == '?' || c == '*' || c == '+' then skip 1

/-- Reads the further parts of a group to its end, all divided by one mark. -/
def groupRest (part : Scan Unit) : (bound : Nat) → Option Char → Scan Unit
  | 0, _ => refuse
  | bound + 1, divider => do
    let _ ← blanks
    match ← next? with
    | some ')' => skip 1; occurrence
    | some c =>
      if (c == ',' || c == '|') && divider.all (· == c) then
        skip 1
        let _ ← blanks
        part
        groupRest part bound (some c)
      else refuse
    | none => refuse

/-- Reads a group of parts after its bracket, in which groups are nested at most `depth` deep. -/
def group : (depth : Nat) → Scan Unit
  | 0 => refuse
  | depth + 1 => do
    let part : Scan Unit := do
      if ← accept "(" then group depth
      else do
        let _ ← name
        occurrence
    let _ ← blanks
    part
    groupRest part (← get).rest.length none

def groupDepth : Nat := 256

/-- Reads names with bars in front of them, and says whether there are any. -/
def mixedNames : (bound : Nat) → Bool → Scan Bool
  | 0, _ => refuse
  | bound + 1, found => do
    if ← accept "|" then
      let _ ← blanks
      let _ ← name
      let _ ← blanks
      mixedNames bound true
    else pure found

def contentModel : Scan Unit := do
  if ← accept "EMPTY" then pure ()
  else if ← accept "ANY" then pure ()
  else
    expect "("
    let _ ← blanks
    if ← accept "#PCDATA" then
      let _ ← blanks
      if ← mixedNames (← get).rest.length false then expect ")*"
      else
        expect ")"
        let _ ← accept "*"
    else group groupDepth

def enumeration (item : Scan String) : (bound : Nat) → Scan Unit
  | 0 => refuse
  | bound + 1 => do
    let _ ← blanks
    let _ ← item
    let _ ← blanks
    if ← accept "|" then enumeration item bound else expect ")"

/-- The types of attributes that are single words. Of two with one beginning the longer comes
first. -/
def typeWords : List (String × AttributeType) :=
  [("CDATA", .text), ("IDREFS", .names), ("IDREF", .name), ("ID", .identifier),
    ("ENTITIES", .names), ("ENTITY", .name), ("NMTOKENS", .tokens), ("NMTOKEN", .token)]

def oneOf {α : Type} : List (String × α) → Scan (Option α)
  | [] => pure none
  | (text, value) :: words => do
    if ← accept text then pure (some value) else oneOf words

def attributeType : Scan AttributeType := do
  match ← oneOf typeWords with
  | some type => pure type
  | none =>
    let isNotation ← accept "NOTATION"
    if isNotation then gap
    expect "("
    enumeration (if isNotation then name else word isColonNamePart) (← get).rest.length
    pure (if isNotation then .name else .tokens)

def valueRest (mark : Char) : ValueState → Position → List Char → Reading (List Piece × Source)
  | _, _, [] => Reading.refuse
  | state, position, c :: cs =>
    if state.reference.isNone && c == mark then
      pure (state.reversed.reverse, ⟨position.next c, cs⟩)
    else do
      let state ← state.step position.site (Value.resolve (position.next c) true false) c
      valueRest mark state (position.next c) cs

/-- Reads the default of an attribute, and gives its value if it has one. -/
def attributeDefault : Scan (Option (List Piece)) := do
  if ← accept "#REQUIRED" then pure none
  else if ← accept "#IMPLIED" then pure none
  else
    if ← accept "#FIXED" then gap
    let c ← mark
    let s ← get
    let (pieces, s) ← valueRest c .start s.position s.rest
    set s
    pure (some pieces)

/-! ### Declarations -/

def close : Scan Unit := do
  let _ ← blanks
  expect ">"

def elementDeclaration : Scan Unit := do
  gap
  let element ← name
  gap; contentModel; close
  if (← getThe Context).declarations.elements.contains element then Reading.blame .malformed
  else Reading.declare fun d => { d with elements := element :: d.elements }

/-- Declares an attribute. The first declaration counts, and only one attribute of an element may
identify it. -/
def declareAttribute (a : AttributeDeclaration) : Reading Unit := do
  let isAccepted :=
    match a.default with
    | none => true
    | some pieces => (Piece.characters? pieces).any a.type.accepts
  if a.name = ⟨some "xml", "id"⟩ && a.type != .identifier then Reading.blame .malformed
  if a.type != .text && !isAccepted then Reading.blame .malformed
  let declared := (← get).declarations.attributes
  if declared.any fun b => b.element == a.element && b.name == a.name then Reading.warn
  else
    if a.type = .identifier &&
        declared.any fun b => b.element == a.element && b.type == .identifier then
      Reading.blame .malformed
    Reading.declare fun d => { d with attributes := a :: d.attributes }

/-- Reads definitions of attributes to the end of the declaration. Each comes after a blank. -/
def attributeDefinitions (element : QualifiedName) : (bound : Nat) → Scan Unit
  | 0 => refuse
  | bound + 1 => do
    let isDivided ← blanks
    if ← accept ">" then pure ()
    else if !isDivided then refuse
    else
      let attributeName ← name
      gap
      let type ← attributeType
      gap
      let value ← attributeDefault
      let rest := (← get).rest
      if !rest.head?.any fun c => isSpace c || c == '>' then refuse
      declareAttribute ⟨element, .divide attributeName.toList, type,
        if type = .text then value else value.map Piece.collapse⟩
      attributeDefinitions element bound

def attributesDeclaration : Scan Unit := do
  gap
  let element ← name
  attributeDefinitions (.divide element.toList) (← get).rest.length

/-- Whether a reserved character's name may be declared with a replacement text: only as a
reference to that character, or as the character itself where markup does not begin with it. -/
def isReservedText (c : Char) (replacement : List Char) : Bool :=
  let hex := "&#x".toList ++ [Nat.digitChar (c.toNat / 16), Nat.digitChar (c.toNat % 16), ';']
  let decimal := "&#".toList ++ (Nat.toDigits 10 c.toNat) ++ [';']
  (replacement == [c] && c != '<' && c != '&') || replacement == decimal ||
    ("&#x".toList.isPrefixOf replacement && replacement.map Char.toLower == hex)

/-- Refuses a system identifier of more than two thousand octets. -/
def checkSystemId (systemId : List Char) : Reading Unit := do
  if 2000 < octetCount systemId then Reading.refuse

/-- Declares an entity, which is stored under the given identifier unless it has its text here. A
reserved character keeps its name, whatever is declared for it. -/
def declareEntity (entityName : String) (definition : EntityDefinition) (systemId : List Char) :
    Reading Unit := do
  match reservedCharacter? entityName.toList, definition with
  | some c, .internal replacement => if !isReservedText c replacement then Reading.warn
  | some _, _ => Reading.warn
  | none, _ =>
    if ((← get).declarations.entity? entityName).isNone then
      checkSystemId systemId
      Reading.declare fun d =>
        { d with entities := ⟨entityName, definition, none, false, 0, false⟩ :: d.entities }

def declareParameter (entityName : String) (replacement : Option (List Char))
    (systemId : List Char) : Reading Unit := do
  if ((← get).declarations.parameter? entityName).isNone then
    checkSystemId systemId
    Reading.declare fun d =>
      { d with parameters := ⟨entityName, replacement, 0, false⟩ :: d.parameters }

/-- Refuses a declaration with a text where the entity of its name is none. This matters only where
references are replaced. -/
def checkText (entityName : String) : Reading Unit := do
  if (← readThe EntityPolicy) = .replace then
    match (← get).declarations.entity? entityName with
    | some ⟨_, .external, _, _, _, _⟩ | some ⟨_, .unparsed, _, _, _, _⟩ => Reading.refuse
    | _ => pure ()

def entityText? : Scan (Option (List Char)) := do
  if (← next?).any fun c => c == '"' || c == '\'' then
    let literal ← quoted (· != '\x00')
    return some (← replacementText (← get).position literal)
  else pure none

/-- Reads where an entity is stored; a fragment of a resource is no entity. -/
def entityId : Scan (List Char) := do
  match ← externalId? with
  | some systemId => if systemId.contains '#' then refuse else pure systemId
  | none => refuse

/-- Reads the format of an entity that is no text, and says whether there is one. The format need
not have a name. -/
def format : Scan Bool := do
  let isDivided ← blanks
  if !isDivided && (← next?) != some '>' then refuse
  if ← accept "NDATA" then
    gap
    if (← next?) != some '>' then let _ ← name
    pure true
  else pure false

def parameterDeclaration : Scan Unit := do
  gap
  let entityName ← plainName
  gap
  match ← entityText? with
  | some replacement =>
    declareParameter entityName (some replacement) []
    close
    checkText entityName
  | none =>
    declareParameter entityName none (← entityId)
    close

def entityDeclaration : Scan Unit := do
  gap
  if ← accept "%" then parameterDeclaration
  else
    let entityName ← plainName
    gap
    match ← entityText? with
    | some replacement =>
      declareEntity entityName (.internal replacement) []
      close
      checkText entityName
    | none =>
      let systemId ← entityId
      declareEntity entityName (if ← format then .unparsed else .external) systemId
      close

def notationDeclaration : Scan Unit := do
  gap
  let notationName ← plainName
  gap
  if ← accept "SYSTEM" then
    gap
    let _ ← systemLiteral
  else
    expect "PUBLIC"
    gap; publicLiteral
    if ← blanks then
      if (← next?).any fun c => c == '"' || c == '\'' then let _ ← systemLiteral
  close
  if (← getThe Context).declarations.notations.contains notationName then
    Reading.blame .malformed
  else Reading.declare fun d => { d with notations := notationName :: d.notations }

def commentRest : CommentState → Position → List Char → Reading Source
  | state, position, [] => Reading.fail (state.faultAtEnd position)
  | state, position, c :: cs => do
    match ← Reading.ofExcept (state.step position c) with
    | .unfinished state => commentRest state (position.next c) cs
    | .finished _ => pure ⟨position.next c, cs⟩

def comment : Scan Unit := do
  let s ← get
  set (← commentRest (.ascii [] 0) s.position s.rest)

def instructionRest : Position → List Char → Reading Source
  | position, '?' :: '>' :: cs => pure ⟨(position.next '?').next '>', cs⟩
  | position, c :: cs =>
    if c = '\x00' then Reading.fail (.nulCharacter position.site)
    else if isLegal c then instructionRest (position.next c) cs
    else Reading.refuse
  | _, [] => Reading.refuse

def instruction : Scan Unit := do
  Instruction.checkTarget (← name).toList
  if ← accept "?>" then pure ()
  else
    gap
    let s ← get
    set (← instructionRest s.position s.rest)

/-! ### The internal subset -/

/-- Reads a declaration of any kind, and says whether there is one. -/
def declaration : Scan Bool := do
  match ← oneOf [("<!ELEMENT", elementDeclaration), ("<!ATTLIST", attributesDeclaration),
    ("<!ENTITY", entityDeclaration), ("<!NOTATION", notationDeclaration), ("<!--", comment),
    ("<?", instruction)] with
  | some scan => scan; pure true
  | none => pure false

/-- Reads items of a subset as long as there are any, with blanks around them. What a reference to a
parameter does is given by `refer`. -/
def items (refer : String → Scan Unit) : (bound : Nat) → Scan Unit
  | 0 => pure ()
  | bound + 1 => do
    let _ ← blanks
    if ← declaration then items refer bound
    else if ← accept "%" then
      let parameterName ← name
      expect ";"
      refer parameterName
      items refer bound
    else pure ()

def countParameter (parameterName : String) (text : List Char) : Reading Unit :=
  Reading.declare (·.updateParameter parameterName fun p =>
    if p.isCounted then p
    else { p with size := p.size + octetCount text, isCounted := true })

/-- Puts the items of a parameter's text in the place of a reference. -/
def expandParameter (nested : Scan Unit) (parameterName : String) (text : List Char) :
    Scan Unit := do
  let position := (← get).position
  if position.room = 0 || position.texts.contains (.parameter parameterName) then refuse
  let (_, inner) ← nested.run
    ⟨position.enter (.parameter parameterName), joinLineEnds text⟩
  if !inner.rest.isEmpty then refuse
  countParameter parameterName text
  let p? := (← getThe Context).declarations.parameter? parameterName
  Reading.charge position (p?.elim 0 (·.size))

/-- What a reference to a parameter does. Where references are replaced, no parameter is looked up,
but an entity of the same name. -/
def referToParameter (nested : Scan Unit) (parameterName : String) : Scan Unit := do
  modifyThe Context fun x => { x with mayHaveMore := true }
  let x ← getThe Context
  match ← readThe EntityPolicy with
  | .keep =>
    match x.declarations.parameter? parameterName with
    | none => Reading.missEntity
    | some p =>
      match p.replacement with
      | none => pure ()
      | some text => expandParameter nested parameterName text
  | .replace =>
    if (reservedCharacter? parameterName.toList).isSome then Reading.warn
    else if (← Reading.findEntity parameterName).isSome then Reading.warn

/-- Reads the items of a parameter's text, in which `room` more texts may be opened. -/
def nestedItems : (room : Nat) → Scan Unit
  | 0 => refuse
  | room + 1 => do items (referToParameter (nestedItems room)) ((← get).rest.length + 1)

/-- Reads what stands between the keyword and the last character of the declaration. -/
def doctype : Scan Unit := do
  gap
  let _ ← name
  let _ ← blanks
  if (← externalId?).isSome then modifyThe Context fun x => { x with mayHaveMore := true }
  let _ ← blanks
  if ← accept "[" then
    items (referToParameter (nestedItems Position.depthLimit)) ((← get).rest.length + 1)
    expect "]"
    let _ ← blanks
  if !(← get).rest.isEmpty then refuse

end Scan

/-- Reads a document type declaration, from behind its keyword to before its last character. -/
def readDoctype (position : Position) (cs : List Char) : Reading Unit := do
  let _ ← Scan.doctype.run ⟨position, cs⟩

end LayeredConfig.Xml
