import LayeredConfig.Number.Numeral
import LayeredConfig.Text.Quoted

/-!
Faults of documents. Most are reported in one line that does not matter here. The few that quote
the document or end a line of their own go on over further lines, and those lines are kept.
-/

namespace LayeredConfig.Xml

/-- A place in a text, both numbers counted from one. -/
structure Place where
  line : Nat
  column : Nat
deriving DecidableEq, Repr

namespace Place

def start : Place := ⟨1, 1⟩

def next (place : Place) (c : Char) : Place :=
  if c = '\n' then ⟨place.line + 1, 1⟩ else ⟨place.line, place.column + 1⟩

def back (place : Place) (columns : Nat) : Place :=
  ⟨place.line, place.column - columns⟩

end Place

/-- Where a fault is reported: a place of the document, or of the text of an entity, which has no
name of its own. -/
structure Site where
  place : Place
  inDocument : Bool
deriving DecidableEq, Repr

/-- Why a document is refused. -/
inductive Fault where
  /-- Any fault whose report has one line. -/
  | malformed
  /-- A NUL where a character is read. -/
  | nulCharacter (site : Site)
  /-- A character section without end, with the content that is quoted. -/
  | unfinishedSection (content : List Char) (site : Site)
  /-- A comment without end, with the content that is quoted. -/
  | unfinishedComment (content : List Char) (site : Site)
  /-- Two hyphens inside a comment, with the content before them. -/
  | doubleHyphen (content : List Char) (site : Site)
  /-- A namespace whose name is no reference to a resource. -/
  | invalidNamespace (name : List Char) (site : Site)
  /-- Attributes that have one name in one namespace. -/
  | repeatedAttribute (namespaceName : List Char) (site : Site)
  /-- An identifier that is no name. -/
  | invalidIdentifier (value : List Char) (site : Site)
  /-- An identifier that occurs before. -/
  | repeatedIdentifier (value : List Char) (site : Site)
deriving DecidableEq, Repr

namespace Fault

def escapeOctet (octet : UInt8) : List Char :=
  if octet < 0x80 then [Char.ofNat octet.toNat]
  else ['\\', 'x', Nat.digitChar (octet.toNat / 16), Nat.digitChar (octet.toNat % 16)]

/-- The first fifty octets of a content. Where that divides a character, all octets beyond ASCII
are written by their codes. -/
def excerpt (content : List Char) : List Char :=
  let octets := (String.ofList content).toUTF8.toList.take 50
  match String.fromUTF8? ⟨octets.toArray⟩ with
  | some text => text.toList
  | none => octets.flatMap escapeOctet

def afterFirstLine (text : List Char) (site : Site) : Option (List Char × Site) :=
  match text.dropWhile (· != '\n') with
  | [] => none
  | _ :: rest => some (rest, site)

/-- What a report has on the lines after its first, or nothing if it has one line. -/
def laterLines : Fault → Option (List Char × Site)
  | .malformed => none
  | .nulCharacter site => some ([], site)
  | .unfinishedSection content site => some (excerpt content, site)
  | .unfinishedComment content site => some ("<!--".toList ++ excerpt content, site)
  | .doubleHyphen content site => afterFirstLine (excerpt content) site
  | .invalidNamespace name site => afterFirstLine (name ++ "' is not a valid URI".toList) site
  | .repeatedAttribute name site => afterFirstLine (name ++ "' redefined".toList) site
  | .invalidIdentifier value site => afterFirstLine (value ++ " is not an NCName".toList) site
  | .repeatedIdentifier value site => afterFirstLine (value ++ " already defined".toList) site

/-- What a report adds to its first line: the later lines with the place of the fault and the name
of the text that it is in. -/
def details (documentName : String) (fault : Fault) : String :=
  match fault.laterLines with
  | none => ""
  | some (lines, site) =>
    "\n" ++ String.ofList lines ++ ", line " ++ Number.render site.place.line ++ ", column " ++
      Number.render site.place.column ++ " (" ++
      (if site.inDocument then documentName else "<string>") ++ ", line " ++
      Number.render site.place.line ++ ")"

end Fault

end LayeredConfig.Xml
