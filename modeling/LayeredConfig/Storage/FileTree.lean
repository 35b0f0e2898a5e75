import LayeredConfig.Storage.Path

/-!
A tree of files held in memory, and what reading a path in it gives. Paths are walked name by name
from the tree's own directory; nothing is known of what lies outside the tree, where every name is
missing.
-/

namespace LayeredConfig.Storage

/-- Why a file cannot be read. -/
inductive ReadFault where
  | notFound
  | notDirectory
  | isDirectory
  | nameTooLong
  /-- Any other reason of the system's. -/
  | other (code : Nat) (description : String)
deriving DecidableEq, Repr

namespace ReadFault

def code : ReadFault → Nat
  | .notFound => 2
  | .notDirectory => 20
  | .isDirectory => 21
  | .nameTooLong => 36
  | .other code _ => code

def description : ReadFault → String
  | .notFound => "No such file or directory"
  | .notDirectory => "Not a directory"
  | .isDirectory => "Is a directory"
  | .nameTooLong => "File name too long"
  | .other _ description => description

/-- The fault of a number, with the words to use if it is none of the common ones. -/
def ofCode (code : Nat) (description : String) : ReadFault :=
  match code with
  | 2 => .notFound
  | 20 => .notDirectory
  | 21 => .isDirectory
  | 36 => .nameTooLong
  | _ => .other code description

end ReadFault

inductive Content where
  | file (octets : List UInt8)
  | directory

/-- Files and empty directories with their places below the tree's own directory. -/
structure FileTree where
  entries : List (List String × Content)

/-- A place that a walk can reach. -/
inductive Position where
  | inside (names : List String)
  | outside

namespace FileTree

/-- What stands at a place inside the tree. A place above an entry is a directory. -/
def lookup (tree : FileTree) (names : List String) : Option Content :=
  match tree.entries.find? (·.1 == names) with
  | some entry => some entry.2
  | none =>
    if names.isEmpty || tree.entries.any (fun entry => names.isPrefixOf entry.1) then
      some .directory
    else none

def contentAt (tree : FileTree) : Position → Option Content
  | .inside names => tree.lookup names
  | .outside => some .directory

/-- The greatest size of a name, in octets. -/
def nameLimit : Nat := 255

/-- The least size of a path's text that is too long, in octets. -/
def pathLimit : Nat := 4096

def enter (tree : FileTree) (position : Position) (name : String) : Except ReadFault Position :=
  if name = ".." then
    match position with
    | .inside (first :: rest) => .ok (.inside (first :: rest).dropLast)
    | _ => .ok .outside
  else if nameLimit < name.utf8ByteSize then .error .nameTooLong
  else
    match position with
    | .outside => .error .notFound
    | .inside names =>
      match tree.lookup (names ++ [name]) with
      | some _ => .ok (.inside (names ++ [name]))
      | none => .error .notFound

/-- A walk along names, each of which is looked up in a directory. -/
def walk (tree : FileTree) : Position → List String → Except ReadFault Position
  | position, [] => .ok position
  | position, name :: names =>
    match tree.contentAt position with
    | some (.file _) => .error .notDirectory
    | _ => do tree.walk (← tree.enter position name) names

def read (tree : FileTree) (path : Path) : Except ReadFault (List UInt8) :=
  if pathLimit ≤ path.text.utf8ByteSize then .error .nameTooLong
  else do
    let start := if path.anchor = .here then .inside [] else .outside
    match tree.contentAt (← tree.walk start path.names) with
    | some (.file octets) => .ok octets
    | _ => .error .isDirectory

end FileTree

end LayeredConfig.Storage
