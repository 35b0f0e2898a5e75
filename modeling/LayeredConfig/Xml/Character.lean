/-!
Characters of XML 1.0: those that a document may have, the blank ones of its markup, and those that
names consist of.
-/

namespace LayeredConfig.Xml

def inRanges (ranges : List (Nat × Nat)) (c : Char) : Bool :=
  ranges.any fun range => range.1 ≤ c.toNat && c.toNat ≤ range.2

/-- The characters that a document may have. -/
def isLegal (c : Char) : Bool :=
  c == '\t' || c == '\n' || c == '\r' ||
    inRanges [(0x20, 0xD7FF), (0xE000, 0xFFFD), (0x10000, 0x10FFFF)] c

/-- The blank characters of markup, fewer than those of texts. -/
def isSpace (c : Char) : Bool :=
  c == ' ' || c == '\t' || c == '\n' || c == '\r'

/-- The characters that a name can begin with, the colon aside. -/
def isNameStart (c : Char) : Bool :=
  c == '_' ||
    inRanges [(0x41, 0x5A), (0x61, 0x7A), (0xC0, 0xD6), (0xD8, 0xF6), (0xF8, 0x2FF),
      (0x370, 0x37D), (0x37F, 0x1FFF), (0x200C, 0x200D), (0x2070, 0x218F), (0x2C00, 0x2FEF),
      (0x3001, 0xD7FF), (0xF900, 0xFDCF), (0xFDF0, 0xFFFD), (0x10000, 0xEFFFF)] c

/-- The characters that a name can go on with, the colon aside. -/
def isNamePart (c : Char) : Bool :=
  isNameStart c || c == '-' || c == '.' ||
    inRanges [(0x30, 0x39), (0xB7, 0xB7), (0x300, 0x36F), (0x203F, 0x2040)] c

def isSimpleName : List Char → Bool
  | [] => false
  | c :: cs => isNameStart c && cs.all isNamePart

def isColonNameStart (c : Char) : Bool :=
  isNameStart c || c == ':'

def isColonNamePart (c : Char) : Bool :=
  isNamePart c || c == ':'

/-- Whether characters make a name that may have colons. -/
def isColonName : List Char → Bool
  | [] => false
  | c :: cs => isColonNameStart c && cs.all isColonNamePart

def octetCount (cs : List Char) : Nat :=
  cs.foldl (fun count c => count + c.utf8Size) 0

def isOverlong (cs : List Char) : Bool :=
  50000 < octetCount cs

/-- Characters in which a carriage return in front of a line feed is dropped. -/
def joinLineEnds : List Char → List Char
  | '\r' :: '\n' :: cs => '\n' :: joinLineEnds cs
  | c :: cs => c :: joinLineEnds cs
  | [] => []

/-- A character as a document means it: a carriage return that is left is a line feed. -/
def meant (c : Char) : Char :=
  if c = '\r' then '\n' else c

end LayeredConfig.Xml
