/-!
References to resources, as names of namespaces have to be: a scheme or none, an authority or none,
a path, a query and a fragment, all written in ASCII.
-/

namespace LayeredConfig.Xml

/-- What a text is as a reference to a resource. -/
inductive Uri where
  /-- A reference that begins with a scheme. -/
  | absolute
  /-- A reference without scheme. -/
  | relative
  | invalid
deriving DecidableEq, Repr

namespace Uri

def isPathCharacter (c : Char) : Bool :=
  c.isAlphanum || "-._~!$&'()*+,;=:@/".toList.contains c

def isHexDigit (c : Char) : Bool :=
  c.isDigit || ('a' ≤ c && c ≤ 'f') || ('A' ≤ c && c ≤ 'F')

/-- Whether characters are allowed ones and triples of a percent sign and two digits. -/
def consistsOf (allowed : Char → Bool) : List Char → Bool
  | [] => true
  | '%' :: a :: b :: cs => isHexDigit a && isHexDigit b && consistsOf allowed cs
  | c :: cs => allowed c && consistsOf allowed cs

/-- The characters before the first `mark`, and those after it if there is one. -/
def splitAt (mark : Char) (cs : List Char) : List Char × Option (List Char) :=
  match cs.dropWhile (· != mark) with
  | [] => (cs, none)
  | _ :: rest => (cs.takeWhile (· != mark), some rest)

def isQuery (query : Option (List Char)) : Bool :=
  query.all (consistsOf fun c => isPathCharacter c || c == '?')

def isFragment (fragment : Option (List Char)) : Bool :=
  fragment.all (consistsOf fun c => isPathCharacter c || c == '?' || c == '[' || c == ']')

def isScheme : List Char → Bool
  | [] => false
  | c :: cs => c.isAlpha && cs.all fun c => c.isAlphanum || c == '+' || c == '-' || c == '.'

def decimal (digits : List Char) : Nat :=
  digits.foldl (fun n c => 10 * n + (c.toNat - '0'.toNat)) 0

/-- Whether what follows a host is nothing, or a colon and the digits of a port. -/
def isPort : List Char → Bool
  | [] => true
  | ':' :: digits =>
    !digits.isEmpty && digits.all Char.isDigit && decimal digits < 2147483648
  | _ => false

/-- What follows a number from 0 to 255, written without further zeros, at the front. -/
def afterOctet? (cs : List Char) : Option (List Char) :=
  let digits := cs.takeWhile Char.isDigit
  let isTaken (count : Nat) : Bool :=
    count ≤ digits.length && decimal (digits.take count) < 256 &&
      (count == 1 || digits.head? != some '0')
  if digits.length == 1 && isTaken 1 then some (cs.drop 1)
  else if digits.length == 2 && isTaken 2 then some (cs.drop 2)
  else if 3 ≤ digits.length && isTaken 3 then some (cs.drop 3)
  else none

/-- What follows some such numbers with a point in front of each. -/
def afterPointed? : (count : Nat) → List Char → Option (List Char)
  | 0, cs => some cs
  | count + 1, '.' :: cs => (afterOctet? cs).bind (afterPointed? count)
  | _ + 1, _ => none

def afterAddress? (cs : List Char) : Option (List Char) :=
  (afterOctet? cs).bind (afterPointed? 3)

/-- Whether a host with its port is well-formed. A host between brackets may hold anything, and one
that begins with a numeric address ends with it. -/
def isHost (cs : List Char) : Bool :=
  match cs with
  | '[' :: cs =>
    match splitAt ']' cs with
    | (_, some port) => isPort port
    | (_, none) => false
  | cs =>
    match afterAddress? cs with
    | some port => isPort port
    | none =>
      consistsOf (fun c => isPathCharacter c && c != ':' && c != '@') (cs.takeWhile (· != ':')) &&
        isPort (cs.dropWhile (· != ':'))

def isAuthority (cs : List Char) : Bool :=
  match splitAt '@' cs with
  | (user, some host) => consistsOf (fun c => isPathCharacter c && c != '@') user && isHost host
  | (host, none) => isHost host

def isHierarchy : List Char → Bool
  | '/' :: '/' :: cs =>
    isAuthority (cs.takeWhile (· != '/')) &&
      consistsOf isPathCharacter (cs.dropWhile (· != '/'))
  | cs => consistsOf isPathCharacter cs

/-- What the part before query and fragment is. Without a scheme no colon may stand in front of the
first slash. -/
def ofMain (cs : List Char) : Uri :=
  match splitAt ':' cs with
  | (scheme, some rest) =>
    if isScheme scheme then if isHierarchy rest then .absolute else .invalid
    else if scheme.contains '/' && isHierarchy cs then .relative
    else .invalid
  | (_, none) => if isHierarchy cs then .relative else .invalid

def ofChars (cs : List Char) : Uri :=
  let (cs, fragment) := splitAt '#' cs
  let (cs, query) := splitAt '?' cs
  if isFragment fragment && isQuery query then ofMain cs else .invalid

end Uri

end LayeredConfig.Xml
