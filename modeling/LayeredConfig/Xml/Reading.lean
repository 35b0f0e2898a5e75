import LayeredConfig.Xml.Declarations
import LayeredConfig.Xml.Findings
import LayeredConfig.Xml.Position

/-!
Reading: what is known of a document besides the place in it. A reading goes on through warnings and
errors and ends at the first thing that cannot be read. It keeps account of the octets that the
entities of each text stand for, so that a short document cannot stand for a long one.
-/

namespace LayeredConfig.Xml

/-- What becomes of references to entities. -/
inductive EntityPolicy where
  /-- They stay where they are. -/
  | keep
  /-- The content of the entity takes their place. -/
  | replace
deriving DecidableEq, Repr

/-- What is known of a document. -/
structure Context where
  standalone : Bool
  /-- Whether there may be declarations that are not read. -/
  mayHaveMore : Bool
  declarations : Declarations
  /-- The identifiers of elements. -/
  identifiers : List String
  /-- The octets that references in the document itself stand for. -/
  size : Nat
  findings : Findings

namespace Context

def start (standalone : Bool) (findings : Findings) : Context :=
  ⟨standalone, false, .none, [], 0, findings⟩

end Context

/-- A computation that learns about a document and may come to its end early. What becomes of
references is settled before. -/
abbrev Reading (α : Type) := ReaderT EntityPolicy (StateT Context (Except Fault)) α

namespace Reading

/-! ### Findings -/

def warn : Reading Unit :=
  modify fun x => { x with findings := x.findings.warn }

/-- Notes an error after which reading goes on. -/
def blame (fault : Fault) : Reading Unit :=
  modify fun x => { x with findings := x.findings.blame fault }

def fail {α : Type} (fault : Fault) : Reading α :=
  fun _ x => .error (x.findings.first fault)

/-- Ends the reading for a reason of one line. -/
def refuse {α : Type} : Reading α :=
  fail .malformed

def ofExcept {α : Type} : Except Fault α → Reading α
  | .ok value => pure value
  | .error fault => fail fault

def declare (change : Declarations → Declarations) : Reading Unit :=
  modify fun x => { x with declarations := change x.declarations }

theorem pure_eq {α : Type} (value : α) (policy : EntityPolicy) (x : Context) :
    (pure value : Reading α) policy x = .ok (value, x) := rfl

theorem bind_eq {α β : Type} (first : Reading α) (next : α → Reading β) (policy : EntityPolicy)
    (x : Context) :
    (first >>= next) policy x =
      match first policy x with
      | .ok (value, y) => next value policy y
      | .error fault => .error fault := by
  simp only [bind, ReaderT.bind, StateT.bind, Except.bind]
  cases first policy x <;> rfl

/-! ### The account of octets -/

/-- The octets that each reference counts besides its text. -/
def fixedSize : Nat := 20

/-- Whether the references of a text stand for too much: more than a million octets, and more than
five times what is read of the text. -/
def isExcessive (size octets : Nat) : Bool :=
  1000000 < size && octets < size / 5

/-- Adds to the account of the text that is read. Nothing is added to that of an entity whose
octets are counted already. -/
def charge (position : Position) (size : Nat) : Reading Unit := do
  let x ← get
  match position.texts with
  | .entity name :: _ =>
    match x.declarations.entity? name with
    | some e =>
      if !e.isCounted then
        let total := e.size + size + fixedSize
        declare (·.updateEntity name fun e => { e with size := total })
        if isExcessive total position.octets then refuse
    | none => pure ()
  | .parameter name :: _ =>
    match x.declarations.parameter? name with
    | some p =>
      if !p.isCounted then
        let total := p.size + size + fixedSize
        declare (·.updateParameter name fun p => { p with size := total })
        if isExcessive total position.octets then refuse
    | none => pure ()
  | _ =>
    let total := x.size + size + fixedSize
    set { x with size := total }
    if isExcessive total position.octets then refuse

/-! ### Entities by their names -/

/-- What follows from a name that is not declared: a document that has all its declarations may not
use it, and another one gets away with a finding. -/
def missEntity : Reading Unit := do
  let x ← get
  if x.standalone || !x.mayHaveMore then refuse
  else
    match ← readThe EntityPolicy with
    | .keep => warn
    | .replace => blame .malformed

/-- The entity of a name, if it is declared. An entity that is no text cannot be referred to, nor
one that is stored elsewhere where references are replaced. -/
def findEntity (name : String) : Reading (Option Entity) := do
  let x ← get
  match x.declarations.entity? name with
  | none => missEntity; pure none
  | some e =>
    match e.definition, ← readThe EntityPolicy with
    | .internal _, _ => pure (some e)
    | .external, .keep => pure (some e)
    | _, _ => refuse

def findInValue (name : String) : Reading (Option (Entity × List Char)) := do
  match ← findEntity name with
  | none => pure none
  | some e =>
    match e.definition with
    | .internal replacement => pure (some (e, replacement))
    | _ => refuse

end Reading

end LayeredConfig.Xml
