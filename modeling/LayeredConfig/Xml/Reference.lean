import LayeredConfig.Xml.Fault
import LayeredConfig.Xml.Node

/-!
References, from the character after the ampersand to the semicolon: to a character by its number,
to one of the five characters that markup reserves, or to an entity by its name.
-/

namespace LayeredConfig.Xml

/-- How much of a reference is read. -/
inductive ReferenceState where
  | start
  | number
  | decimal (value : Nat)
  | hexadecimalStart
  | hexadecimal (value : Nat)
  /-- The characters of the name, last one first. -/
  | name (reversed : List Char)
deriving DecidableEq, Repr

inductive ReferenceStep where
  | unfinished (state : ReferenceState)
  | finished (piece : Piece)
deriving DecidableEq, Repr

/-- The characters that have a name in every document. -/
def reservedCharacter? (name : List Char) : Option Char :=
  if name = ['l', 't'] then some '<'
  else if name = ['g', 't'] then some '>'
  else if name = ['a', 'm', 'p'] then some '&'
  else if name = ['q', 'u', 'o', 't'] then some '"'
  else if name = ['a', 'p', 'o', 's'] then some '\''
  else none

def legalCharacter? (value : Nat) : Option Char :=
  if value.isValidChar && isLegal (Char.ofNat value) then some (Char.ofNat value) else none

def hexValue? (c : Char) : Option Nat :=
  if c.isDigit then some (c.toNat - '0'.toNat)
  else if 'a' ≤ c && c ≤ 'f' then some (c.toNat - 'a'.toNat + 10)
  else if 'A' ≤ c && c ≤ 'F' then some (c.toNat - 'A'.toNat + 10)
  else none

namespace ReferenceState

def finishNumber (value : Nat) : Except Fault ReferenceStep :=
  match legalCharacter? value with
  | some c => .ok (.finished (.character c))
  | none => .error .malformed

def finishName (name : List Char) : Except Fault ReferenceStep :=
  match reservedCharacter? name with
  | some c => .ok (.finished (.character c))
  | none =>
    if isOverlong name then .error .malformed
    else .ok (.finished (.reference (String.ofList name)))

def step (site : Site) (state : ReferenceState) (c : Char) : Except Fault ReferenceStep :=
  match state with
  | .start =>
    if c = '#' then .ok (.unfinished .number)
    else if isNameStart c || c == ':' then .ok (.unfinished (.name [c]))
    else if c = '\x00' then .error (.nulCharacter site)
    else .error .malformed
  | .number =>
    if c = 'x' then .ok (.unfinished .hexadecimalStart)
    else if c.isDigit then .ok (.unfinished (.decimal (c.toNat - '0'.toNat)))
    else .error .malformed
  | .decimal value =>
    if c = ';' then finishNumber value
    else if c.isDigit then .ok (.unfinished (.decimal (10 * value + (c.toNat - '0'.toNat))))
    else .error .malformed
  | .hexadecimalStart =>
    match hexValue? c with
    | some digit => .ok (.unfinished (.hexadecimal digit))
    | none => .error .malformed
  | .hexadecimal value =>
    if c = ';' then finishNumber value
    else
      match hexValue? c with
      | some digit => .ok (.unfinished (.hexadecimal (16 * value + digit)))
      | none => .error .malformed
  | .name reversed =>
    if c = ';' then finishName reversed.reverse
    else if isNamePart c || c == ':' then .ok (.unfinished (.name (c :: reversed)))
    else if c = '\x00' then .error (.nulCharacter site)
    else .error .malformed

end ReferenceState

end LayeredConfig.Xml
