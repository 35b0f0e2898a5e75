import LayeredConfig.Xml.Reading
import LayeredConfig.Xml.Reference

/-!
Values of attributes, and the texts that declarations give entities. An entity may stand in a value
if its text has no markup in it. Where references stay in place that is only looked at; elsewhere,
and in the name of every namespace, the text takes the place of the reference.
-/

namespace LayeredConfig.Xml

/-! ### Values character by character -/

/-- How much of a value is read. Its pieces are in reverse order; a reference may be pending. -/
structure ValueState where
  reversed : List Piece
  reference : Option ReferenceState

namespace ValueState

def start : ValueState :=
  ⟨[], none⟩

/-- Reads one character of a value, in which every blank is a space. Names are left to `resolve`. -/
def step (site : Site) (resolve : String → Reading (List Piece)) (state : ValueState) (c : Char) :
    Reading ValueState :=
  match state.reference with
  | some reference => do
    match ← Reading.ofExcept (reference.step site c) with
    | .unfinished reference => pure ⟨state.reversed, some reference⟩
    | .finished (.character d) => pure ⟨.character d :: state.reversed, none⟩
    | .finished (.reference name) =>
      let pieces ← resolve name
      pure ⟨pieces.reverse ++ state.reversed, none⟩
  | none =>
    if c = '&' then pure ⟨state.reversed, some .start⟩
    else if c = '<' || !isLegal c then Reading.refuse
    else pure ⟨.character (if isSpace c then ' ' else c) :: state.reversed, none⟩

end ValueState

/-! ### Entities in values -/

namespace Value

def piecesOf (text : List Char) : Reading (List Piece) := do
  let site : Site := ⟨.start, false⟩
  let state ← text.foldlM
    (ValueState.step site fun name => pure [.reference name]) ValueState.start
  match state.reference with
  | none => pure state.reversed.reverse
  | some _ => Reading.refuse

/-- Whether nothing is left to be looked at in an entity's text. While declarations are read the
octets cannot be counted yet. -/
def isReady (inDeclaration : Bool) (e : Entity) : Bool :=
  e.isChecked && (inDeclaration || e.isCounted)

/-- Looks at the text of an entity, and at those of the entities in it, of which `room` more may be
open. -/
def check (inDeclaration : Bool) :
    (room : Nat) → (texts : List TextName) → Entity → List Char → Reading Unit
  | 0, _, _, _ => Reading.refuse
  | room + 1, texts, e, text => do
    if texts.contains (.entity e.name) then Reading.refuse
    let size ← (← piecesOf text).foldlM (fun size piece => do
      match piece with
      | .character _ => pure size
      | .reference name =>
        match ← Reading.findInValue name with
        | none => pure size
        | some (inner, innerText) =>
          if !isReady inDeclaration inner then
            check inDeclaration room (.entity e.name :: texts) inner innerText
          let counted := ((← get).declarations.entity? name).elim 0 (·.size)
          pure (size + counted + Reading.fixedSize)) (octetCount text)
    Reading.declare (·.updateEntity e.name fun e =>
      if inDeclaration then { e with isChecked := true }
      else { e with isChecked := true, isCounted := true, size := size })

/-- The text of an entity with all references in it replaced. -/
def expand (position : Position) :
    (room : Nat) → (texts : List TextName) → Entity → List Char → Reading (List Piece)
  | 0, _, _, _ => Reading.refuse
  | room + 1, texts, e, text => do
    if texts.contains (.entity e.name) then Reading.refuse
    Reading.charge position (octetCount text)
    let reversed ← (← piecesOf text).foldlM (fun reversed piece => do
      match piece with
      | .character _ => pure (piece :: reversed)
      | .reference name =>
        match ← Reading.findInValue name with
        | none => pure reversed
        | some (inner, innerText) =>
          let pieces ← expand position room (.entity e.name :: texts) inner innerText
          pure (pieces.reverse ++ reversed)) []
    pure reversed.reverse

/-- What a reference by name becomes in a value: nothing if the name is not declared, the text of
the entity where that is wanted, and else a reference still. -/
def resolve (position : Position) (inDeclaration wantsText : Bool) (name : String) :
    Reading (List Piece) := do
  match ← Reading.findInValue name with
  | none => pure []
  | some (e, text) =>
    if wantsText || (← readThe EntityPolicy) = .replace then
      expand position position.room position.texts e text
    else
      if !isReady inDeclaration e then
        check inDeclaration position.room position.texts e text
      Reading.charge position (((← get).declarations.entity? name).elim 0 (·.size))
      pure [.reference name]

end Value

/-! ### Texts of entities -/

/-- What of an entity's text is pending. -/
inductive Pending where
  | nothing
  /-- A reference, with what is read of it in reverse order. -/
  | reference (state : ReferenceState) (seen : List Char)
  /-- The name of a parameter, in reverse order. -/
  | parameter (reversed : List Char)
  /-- Nothing more is taken. -/
  | cut

/-- How much of an entity's text is read. The characters are in reverse order. -/
structure ReplacementState where
  reversed : List Char
  pending : Pending

namespace ReplacementState

/-- Refers to a parameter inside the text of an entity, which a document may do only where it leaves
declarations unread. -/
def referToParameter (name : String) : Reading Unit := do
  modify fun x => { x with mayHaveMore := true }
  let x ← get
  let policy ← readThe EntityPolicy
  let isKnown :=
    match policy with
    | .keep => (x.declarations.parameter? name).isSome
    | .replace =>
      (x.declarations.entity? name).isSome || (reservedCharacter? name.toList).isSome
  if isKnown then Reading.refuse else Reading.missEntity

/-- Reads one character of an entity's text. References by number are replaced at once, those by
name are left to where the entity is used. -/
def step (state : ReplacementState) (c : Char) : Reading ReplacementState :=
  match state.pending with
  | .cut => pure state
  | .nothing =>
    if c = '&' then pure ⟨state.reversed, .reference .start [c]⟩
    else if c = '%' then pure ⟨state.reversed, .parameter []⟩
    else if isLegal c then pure ⟨c :: state.reversed, .nothing⟩
    else Reading.refuse
  | .reference reference seen => do
    match ← Reading.ofExcept (reference.step ⟨.start, false⟩ c), reference with
    | .unfinished next, _ => pure ⟨state.reversed, .reference next (c :: seen)⟩
    | .finished (.character d), .decimal _ | .finished (.character d), .hexadecimal _ =>
      pure ⟨d :: state.reversed, .nothing⟩
    | .finished _, _ => pure ⟨c :: seen ++ state.reversed, .nothing⟩
  | .parameter reversed =>
    if reversed.isEmpty then
      if isColonNameStart c then pure ⟨state.reversed, .parameter [c]⟩ else Reading.refuse
    else if isColonNamePart c then pure ⟨state.reversed, .parameter (c :: reversed)⟩
    else if c = ';' then do
      referToParameter (String.ofList reversed.reverse)
      pure ⟨state.reversed, .cut⟩
    else Reading.refuse

end ReplacementState

/-- The replacement text that an entity's literal gives, at a position where it may be nested. -/
def replacementText (position : Position) (literal : List Char) : Reading (List Char) := do
  if position.room = 0 then Reading.refuse
  let state ← literal.foldlM ReplacementState.step ⟨[], .nothing⟩
  match state.pending with
  | .nothing | .cut => pure state.reversed.reverse
  | _ => Reading.refuse

end LayeredConfig.Xml
