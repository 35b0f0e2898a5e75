import LayeredConfig.Xml.Encoding
import LayeredConfig.Xml.Reader

/-!
Documents, from octets to trees. There are two trees of a document: the guarded one has every
reference in place and no remarks, so that no content of an entity is in it; the full one has all
references replaced and keeps the remarks. Both exist only for documents that are well-formed.
-/

namespace LayeredConfig.Xml

namespace Document

/-- What there is to object to in a declaration: versions other than the first are odd. -/
def findingsOf (declaration : Option Declaration) : Findings :=
  if declaration.all (·.version = "1.0") then .none else Findings.none.warn

/-- Reads the rest of a document, and what follows the root with it. -/
def readRest (position : Position) (rest : List Char) (isComplete : Bool) : Reading Node := do
  let r ← (Reader.start position).run (Reader.readEntity Position.depthLimit) rest
  if !isComplete then r.refuseOctet
  r.finish

def ofCharacters (policy : EntityPolicy) (decoded : Decoded) : Except Fault Node :=
  let cs := joinLineEnds decoded.characters
  match Declaration.split cs with
  | none => .error .malformed
  | some ⟨declaration, rest⟩ =>
    let position := Position.start.afterAll (cs.take (cs.length - rest.length))
    let standalone := (declaration.bind Declaration.standalone).getD false
    match (readRest position rest decoded.isComplete).run policy
      |>.run (.start standalone (findingsOf declaration)) with
    | .error fault => .error fault
    | .ok (root, x) =>
      match x.findings.refusal with
      | some fault => .error fault
      | none => .ok root

def ofOctets (policy : EntityPolicy) (octets : List UInt8) : Except Fault Node :=
  match decodeDocument octets with
  | none => .error .malformed
  | some decoded => ofCharacters policy decoded

end Document

/-- The guarded tree of a document that octets write. -/
def readGuarded (octets : List UInt8) : Except Fault Node :=
  (Document.ofOctets .keep octets).map Node.withoutRemarks

/-- The full tree of a document that octets write. -/
def readFull (octets : List UInt8) : Except Fault Node :=
  Document.ofOctets .replace octets

end LayeredConfig.Xml
