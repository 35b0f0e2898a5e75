import LayeredConfig.Xml.Character

/-!
The declaration that may open a document: the version, the encoding and whether the document stands
alone, in this order and divided by blanks.
-/

namespace LayeredConfig.Xml

structure Declaration where
  version : String
  encoding : Option String
  standalone : Option Bool
deriving DecidableEq, Repr

/-- A document divided into its declaration, if there is one, and the rest. -/
structure Declared where
  declaration : Option Declaration
  rest : List Char

namespace Declaration

/-- What follows a text at the front of characters. -/
def after? : List Char → List Char → Option (List Char)
  | [], cs => some cs
  | p :: ps, c :: cs => if p == c then after? ps cs else none
  | _ :: _, [] => none

/-- A value between quotation marks, after an equals sign that blanks may surround. -/
def quotedValue (cs : List Char) : Option (List Char × List Char) :=
  match cs.dropWhile isSpace with
  | '=' :: cs =>
    match cs.dropWhile isSpace with
    | mark :: cs =>
      if mark == '"' || mark == '\'' then
        match cs.dropWhile (· != mark) with
        | _ :: rest => some (cs.takeWhile (· != mark), rest)
        | [] => none
      else none
    | [] => none
  | _ => none

/-- The value of a named item, if the item stands here after at least one blank. The inner option
says whether the item stands here, the outer one whether it is well-formed. -/
def item (name : String) (valid : List Char → Bool) (cs : List Char) :
    Option (Option (List Char) × List Char) :=
  match after? name.toList (cs.dropWhile isSpace) with
  | none => some (none, cs)
  | some rest =>
    if cs.head?.any isSpace then
      match quotedValue rest with
      | some (value, rest) => if valid value then some (some value, rest) else none
      | none => none
    else none

/-- The versions that are read: one, a point, and any digits. -/
def isVersion : List Char → Bool
  | '1' :: '.' :: digits => digits.all Char.isDigit
  | _ => false

def isEncodingName : List Char → Bool
  | [] => false
  | c :: cs =>
    c.isAlpha && cs.all fun c => c.isAlphanum || c == '.' || c == '_' || c == '-'

def isAnswer (value : List Char) : Bool :=
  value == ['y', 'e', 's'] || value == ['n', 'o']

def body (cs : List Char) : Option (Declaration × List Char) := do
  let (version, cs) ← item "version" isVersion cs
  let version ← version
  let (encoding, cs) ← item "encoding" isEncodingName cs
  let (standalone, cs) ← item "standalone" isAnswer cs
  let rest ← after? ['?', '>'] (cs.dropWhile isSpace)
  pure (⟨String.ofList version, encoding.map String.ofList,
    standalone.map (· == ['y', 'e', 's'])⟩, rest)

/-- Takes the declaration off a document; a document without one is left as it is. -/
def split (cs : List Char) : Option Declared :=
  match after? ['<', '?', 'x', 'm', 'l'] cs with
  | some (c :: rest) =>
    if isSpace c then (body (c :: rest)).map fun (declaration, rest) => ⟨some declaration, rest⟩
    else some ⟨none, cs⟩
  | _ => some ⟨none, cs⟩

end Declaration

end LayeredConfig.Xml
