import LayeredConfig.Xml.Character
import LayeredConfig.Xml.Declaration

/-!
Decoding of documents. A byte order mark decides the encoding, failing that the pattern that the
beginning of a declaration makes, failing that the encoding which the declaration names, and UTF-8
where there is none. An octet that the encoding does not explain refuses the document, in UTF-8 once
the characters before it are read. Decoders for other encodings, such as ISO-8859-15 and
windows-1252, are left out: a document that names one of these is refused here, although it can be
read where there is a decoder.
-/

namespace LayeredConfig.Xml

/-- The encodings that have a decoder. -/
inductive Encoding where
  | utf8
  | utf16Big
  | utf16Little
  | latin1
  | ascii
deriving DecidableEq, Repr

namespace Encoding

/-- The encoding that a declaration names, in any letter case, if it has a decoder. The wide
encodings cannot be named by a declaration that was read octet by octet, so they are not among these
names. -/
def ofName? (name : String) : Option Encoding :=
  let name := name.map Char.toUpper
  if ["UTF-8", "UTF8"].contains name then some .utf8
  else if ["ISO-8859-1", "ISO8859-1", "ISO_8859-1", "ISO-LATIN-1", "LATIN1", "L1", "CP819",
      "IBM819", "ISO-IR-100", "CSISOLATIN1"].contains name then some .latin1
  else if ["ASCII", "US-ASCII", "US", "ISO646-US", "ANSI_X3.4-1968", "ANSI_X3.4-1986", "ISO-IR-6",
      "CP367", "IBM367", "CSASCII"].contains name then some .ascii
  else none

/-- Octets as code units of two octets each. -/
def codeUnits (bigEndian : Bool) : List UInt8 → Option (List Nat)
  | [] => some []
  | [_] => none
  | a :: b :: rest =>
    (codeUnits bigEndian rest).map
      ((if bigEndian then 256 * a.toNat + b.toNat else 256 * b.toNat + a.toNat) :: ·)

/-- Code units as characters; surrogates must come in pairs. -/
def ofCodeUnits : List Nat → Option (List Char)
  | [] => some []
  | high :: rest =>
    if high < 0xD800 || 0xE000 ≤ high then (ofCodeUnits rest).map (Char.ofNat high :: ·)
    else
      match rest with
      | low :: rest =>
        if high < 0xDC00 && 0xDC00 ≤ low && low < 0xE000 then
          (ofCodeUnits rest).map
            (Char.ofNat (0x10000 + 0x400 * (high - 0xD800) + (low - 0xDC00)) :: ·)
        else none
      | [] => none

def continuation? (octet : UInt8) : Option Nat :=
  if 0x80 ≤ octet && octet < 0xC0 then some (octet.toNat - 0x80) else none

/-- A character by its number, which must need more than the octets that were too few. -/
def wideCharacter? (least value : Nat) : Option Char :=
  if least ≤ value && value.isValidChar then some (Char.ofNat value) else none

def firstCharacter? : List UInt8 → Option (Char × List UInt8)
  | [] => none
  | a :: rest =>
    if a < 0x80 then some (Char.ofNat a.toNat, rest)
    else if a < 0xC0 then none
    else
      match continuation? <$> rest.head?, rest.drop 1 with
      | some (some b), rest =>
        if a < 0xE0 then
          (wideCharacter? 0x80 (0x40 * (a.toNat - 0xC0) + b)).map (·, rest)
        else
          match continuation? <$> rest.head?, rest.drop 1 with
          | some (some c), rest =>
            if a < 0xF0 then
              (wideCharacter? 0x800 (0x1000 * (a.toNat - 0xE0) + 0x40 * b + c)).map (·, rest)
            else
              match continuation? <$> rest.head?, rest.drop 1 with
              | some (some d), rest =>
                (wideCharacter? 0x10000
                  (0x40000 * (a.toNat - 0xF0) + 0x1000 * b + 0x40 * c + d)).map (·, rest)
              | _, _ => none
          | _, _ => none
      | _, _ => none

/-- The characters of UTF-8 before the first octet that is not explained, in reverse order. Each
takes an octet at least, so that the number of octets bounds them. -/
def explained : (bound : Nat) → List UInt8 → List Char → List Char
  | 0, _, reversed => reversed
  | bound + 1, octets, reversed =>
    match firstCharacter? octets with
    | some (c, rest) => explained bound rest (c :: reversed)
    | none => reversed

end Encoding

/-- The characters of a document, and whether they are all of it. -/
structure Decoded where
  characters : List Char
  isComplete : Bool

namespace Encoding

def decode : Encoding → List UInt8 → Option Decoded
  | .utf8, octets =>
    match String.fromUTF8? ⟨octets.toArray⟩ with
    | some text => some ⟨text.toList, true⟩
    | none => some ⟨(explained octets.length octets []).reverse, false⟩
  | .utf16Big, octets => ((codeUnits true octets).bind ofCodeUnits).map (⟨·, true⟩)
  | .utf16Little, octets => ((codeUnits false octets).bind ofCodeUnits).map (⟨·, true⟩)
  | .latin1, octets => some ⟨octets.map fun octet => Char.ofNat octet.toNat, true⟩
  | .ascii, octets =>
    if octets.all (· < 0x80) then
      some ⟨octets.map fun octet => Char.ofNat octet.toNat, true⟩
    else none

/-- The encoding of a document without mark or pattern, after its declaration. The declaration
consists of ASCII, so it can be read before the encoding is known. -/
def ofDeclaration (octets : List UInt8) : Option Encoding :=
  match Declaration.split (octets.map fun octet => Char.ofNat octet.toNat) with
  | some ⟨some declaration, _⟩ =>
    match declaration.encoding with
    | some name => ofName? name
    | none => some .utf8
  | _ => some .utf8

def detect : List UInt8 → Option (Encoding × List UInt8)
  | 0xEF :: 0xBB :: 0xBF :: octets => some (.utf8, octets)
  | 0xFE :: 0xFF :: octets => some (.utf16Big, octets)
  | 0xFF :: 0xFE :: octets => some (.utf16Little, octets)
  | 0x00 :: 0x3C :: 0x00 :: 0x3F :: octets =>
    some (.utf16Big, 0x00 :: 0x3C :: 0x00 :: 0x3F :: octets)
  | 0x3C :: 0x00 :: 0x3F :: 0x00 :: octets =>
    some (.utf16Little, 0x3C :: 0x00 :: 0x3F :: 0x00 :: octets)
  | octets => (ofDeclaration octets).map (·, octets)

end Encoding

/-- The characters of a document, if its encoding is understood. -/
def decodeDocument (octets : List UInt8) : Option Decoded :=
  (Encoding.detect octets).bind fun (encoding, rest) => encoding.decode rest

end LayeredConfig.Xml
