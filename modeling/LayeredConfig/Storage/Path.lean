/-!
Paths. A path is an anchor and the names that follow it; empty names and single dots are dropped
when a text is read, double dots are kept. Exactly two leading slashes anchor a path in a place of
their own, any other number of them at the root.
-/

namespace LayeredConfig.Storage

/-- What a path starts from. -/
inductive Anchor where
  | here
  | root
  | doubleRoot
deriving DecidableEq, Repr

def Anchor.text : Anchor → String
  | .here => ""
  | .root => "/"
  | .doubleRoot => "//"

structure Path where
  anchor : Anchor
  names : List String
deriving DecidableEq, Repr

namespace Path

/-- Divides characters at slashes; `n` slashes make `n + 1` parts, some of them empty. -/
def splitSlashes : List Char → List (List Char)
  | [] => [[]]
  | '/' :: cs => [] :: splitSlashes cs
  | c :: cs =>
    match splitSlashes cs with
    | [] => [[c]]
    | part :: parts => (c :: part) :: parts

def isName (part : List Char) : Bool :=
  !part.isEmpty && part != ['.']

def anchorOf : List Char → Anchor
  | '/' :: '/' :: '/' :: _ => .root
  | '/' :: '/' :: _ => .doubleRoot
  | '/' :: _ => .root
  | _ => .here

/-- The path that a text writes; every text writes one. -/
def ofText (s : String) : Path :=
  ⟨anchorOf s.toList, ((splitSlashes s.toList).filter isName).map String.ofList⟩

/-- The one text a path is written as; a path without anchor and names is a dot. -/
def text (path : Path) : String :=
  if path.anchor = .here ∧ path.names = [] then "."
  else path.anchor.text ++ "/".intercalate path.names

/-- The path seen from a working directory: an anchored path is itself. -/
def absolute (path directory : Path) : Path :=
  if path.anchor = .here then ⟨directory.anchor, directory.names ++ path.names⟩ else path

def lastName (path : Path) : String :=
  path.names.getLastD ""

end Path

end LayeredConfig.Storage
