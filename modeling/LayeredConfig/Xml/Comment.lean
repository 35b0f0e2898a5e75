import LayeredConfig.Xml.Reading

/-!
Comments, from the character after the opening to the end mark. Two hyphens in a row may stand only
in the end mark. As long as a comment is ASCII its faults are told apart by the hyphens; from the
first other character on, a carriage return included, by how much of the comment is left. Of an
instruction to another program only the name of the program matters.
-/

namespace LayeredConfig.Xml

/-- How much of a comment is read, last character first. -/
inductive CommentState where
  /-- ASCII so far, ending in the given number of hyphens, at most two. -/
  | ascii (reversed : List Char) (hyphens : Nat)
  /-- Beyond ASCII for the given number of characters. -/
  | wide (reversed : List Char) (length : Nat)
deriving DecidableEq, Repr

inductive CommentStep where
  | unfinished (state : CommentState)
  | finished (content : List Char)
deriving DecidableEq, Repr

namespace CommentState

def isAsciiText (c : Char) : Bool :=
  c == '\t' || c == '\n' || (0x20 ≤ c.toNat && c.toNat ≤ 0x7F)

def doubleHyphenBefore (reversed : List Char) (position : Position) : Fault :=
  .doubleHyphen (reversed.drop 2).reverse (position.back 2).site

def step (position : Position) (state : CommentState) (c : Char) : Except Fault CommentStep :=
  match state with
  | .ascii reversed hyphens =>
    if hyphens = 2 then
      if c = '>' then .ok (.finished (reversed.drop 2).reverse)
      else .error (doubleHyphenBefore reversed position)
    else if c = '-' then .ok (.unfinished (.ascii (c :: reversed) (hyphens + 1)))
    else if isAsciiText c then .ok (.unfinished (.ascii (c :: reversed) 0))
    else if c = '\x00' then .error (.nulCharacter position.site)
    else if isLegal c then .ok (.unfinished (.wide (meant c :: reversed) 1))
    else .error .malformed
  | .wide reversed length =>
    if c = '\x00' then .error (.nulCharacter position.site)
    else if !isLegal c then .error .malformed
    else if reversed.take 2 == ['-', '-'] then
      if c = '>' then .ok (.finished (reversed.drop 2).reverse) else .error .malformed
    else .ok (.unfinished (.wide (meant c :: reversed) (length + 1)))

def faultAtEnd (position : Position) : CommentState → Fault
  | .ascii reversed hyphens =>
    if hyphens = 2 then doubleHyphenBefore reversed position else .malformed
  | .wide reversed length =>
    if 3 ≤ length then .unfinishedComment (reversed.drop 2).reverse position.site else .malformed

end CommentState

namespace Instruction

/-- The programs whose names may begin like that of a declaration. -/
def reservedTargets : List (List Char) :=
  ["xml-stylesheet".toList, "xml-model".toList]

/-- Looks at a target: `xml` is kept for declarations, in any letter case, what begins with it is
odd, and a colon is an error. -/
def checkTarget (name : List Char) : Reading Unit := do
  let lower := name.map Char.toLower
  if isOverlong name || lower = ['x', 'm', 'l'] then Reading.refuse
  if reservedTargets.contains name then pure ()
  else
    if ['x', 'm', 'l'].isPrefixOf lower then Reading.warn
    if name.contains ':' then Reading.blame .malformed

end Instruction

end LayeredConfig.Xml
