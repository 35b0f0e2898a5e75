import LayeredConfig.Number.Numeral
import LayeredConfig.Text.Blank

/-!
Numerals as they may be typed by hand: blank characters around the numeral, digits of any script,
and single underscores between digits are accepted as well. The ten digits of a script are
consecutive, so that a table of the zeros, after Unicode 14, decides which characters are digits and
of what value.
-/

namespace LayeredConfig.Text

/-- The code points of the zeros, in ascending order. -/
def digitZeros : Array Nat :=
  #[
    0x0030, 0x0660, 0x06F0, 0x07C0, 0x0966, 0x09E6, 0x0A66, 0x0AE6, 0x0B66, 0x0BE6,
    0x0C66, 0x0CE6, 0x0D66, 0x0DE6, 0x0E50, 0x0ED0, 0x0F20, 0x1040, 0x1090, 0x17E0,
    0x1810, 0x1946, 0x19D0, 0x1A80, 0x1A90, 0x1B50, 0x1BB0, 0x1C40, 0x1C50, 0xA620,
    0xA8D0, 0xA900, 0xA9D0, 0xA9F0, 0xAA50, 0xABF0, 0xFF10, 0x104A0, 0x10D30, 0x11066,
    0x110F0, 0x11136, 0x111D0, 0x112F0, 0x11450, 0x114D0, 0x11650, 0x116C0, 0x11730, 0x118E0,
    0x11950, 0x11C50, 0x11D50, 0x11DA0, 0x16A60, 0x16AC0, 0x16B50, 0x1D7CE, 0x1D7D8, 0x1D7E2,
    0x1D7EC, 0x1D7F6, 0x1E140, 0x1E2F0, 0x1E950, 0x1FBF0
  ]

def decimalDigit? (c : Char) : Option Nat :=
  (digitZeros.find? fun first => first ≤ c.toNat && c.toNat ≤ first + 9).map (c.toNat - ·)

end LayeredConfig.Text

namespace LayeredConfig.Number

open LayeredConfig.Text

/-- The ASCII characters that may surround a numeral. -/
def isAsciiSpace (c : Char) : Bool :=
  c == ' ' || (0x09 ≤ c.toNat && c.toNat ≤ 0x0D)

/-- A digit of any script as an ASCII digit, and a blank character beyond ASCII as a space. -/
def toAscii (c : Char) : Char :=
  if c.toNat < 0x7F then c
  else if isBlank c then ' '
  else
    match decimalDigit? c with
    | some value => Nat.digitChar value
    | none => c

/-- Takes away the underscores of a row of digits, each of which must stand between two digits. -/
def joinDigitGroups : List Char → Option (List Char)
  | [] => none
  | [c] => if isDigit c then some [c] else none
  | c :: '_' :: rest => if isDigit c then (joinDigitGroups rest).map (c :: ·) else none
  | c :: rest => if isDigit c then (joinDigitGroups rest).map (c :: ·) else none

/-- The integer that a text denotes when it is read with these liberties. -/
def parseLenient? (text : String) : Option Int :=
  let plain := text.toList.map toAscii
  let core := ((plain.dropWhile isAsciiSpace).reverse.dropWhile isAsciiSpace).reverse
  let (negative, groups) := splitSign core
  match joinDigitGroups groups with
  | some digits =>
    if digits.length ≤ digitLimit then some (signed negative (digitsValue digits)) else none
  | none => none

end LayeredConfig.Number
