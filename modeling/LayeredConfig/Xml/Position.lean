import LayeredConfig.Xml.Fault

/-!
Positions: how far the reading of a document has come. The text of an entity is read like the
document itself, in between, so that several texts can be open at once.
-/

namespace LayeredConfig.Xml

inductive TextName where
  | document
  | entity (name : String)
  /-- An entity for use in the document type declaration only. -/
  | parameter (name : String)
deriving DecidableEq, Repr

structure Position where
  /-- The texts that are open, the one that is being read first. -/
  texts : List TextName
  /-- Where faults are reported unless the text is the document. -/
  outer : Option Site
  place : Place
  /-- The octets that are read of the text. -/
  octets : Nat

namespace Position

def start : Position :=
  ⟨[.document], none, .start, 0⟩

/-- The greatest number of texts that may be open at once. -/
def depthLimit : Nat := 20

/-- The number of texts that may still be opened. -/
def room (position : Position) : Nat :=
  depthLimit - position.texts.length

def next (position : Position) (c : Char) : Position :=
  { position with
    place := position.place.next c, octets := position.octets + c.utf8Size }

def afterAll (position : Position) (cs : List Char) : Position :=
  cs.foldl next position

def back (position : Position) (columns : Nat) : Position :=
  { position with place := position.place.back columns }

/-- Where a fault at a position is reported. Inside an entity that is where its text is put in. -/
def site (position : Position) : Site :=
  position.outer.getD ⟨position.place, true⟩

def enter (position : Position) (name : TextName) : Position :=
  ⟨name :: position.texts, some ⟨position.place, position.outer.isNone⟩, .start, 0⟩

end Position

end LayeredConfig.Xml
