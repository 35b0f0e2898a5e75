import LayeredConfig.Text.Printable

/-!
Quoted texts, the form in which values appear inside messages. The quotation mark is the single
one unless the text has single marks and no double ones; the mark in use and the backslash get a
backslash, and a character that is not printable is written by its code. A long text is abbreviated
by the size of its UTF-8 form, without ever dividing a character.
-/

namespace LayeredConfig.Text

/-- The last `width` hexadecimal digits of a number, in lowercase. -/
def hexDigits : (width : Nat) → Nat → List Char
  | 0, _ => []
  | width + 1, n => hexDigits width (n / 16) ++ [Nat.digitChar (n % 16)]

/-- A character by its code, in the shortest of three widths that holds it. -/
def escapeCode (c : Char) : List Char :=
  if c.toNat < 0x100 then '\\' :: 'x' :: hexDigits 2 c.toNat
  else if c.toNat < 0x10000 then '\\' :: 'u' :: hexDigits 4 c.toNat
  else '\\' :: 'U' :: hexDigits 8 c.toNat

def quotationMark (cs : List Char) : Char :=
  if cs.contains '\'' && !cs.contains '"' then '"' else '\''

def quoteChar (mark c : Char) : List Char :=
  if c == mark || c == '\\' then ['\\', c]
  else if c == '\n' then ['\\', 'n']
  else if c == '\r' then ['\\', 'r']
  else if c == '\t' then ['\\', 't']
  else if isPrintable c then [c]
  else escapeCode c

def quote (s : String) : String :=
  let mark := quotationMark s.toList
  String.ofList (mark :: s.toList.flatMap (quoteChar mark) ++ [mark])

/-! ### Abbreviation -/

def octets (cs : List Char) : Nat :=
  cs.foldl (fun size c => size + c.utf8Size) 0

/-- The longest beginning whose UTF-8 form has at most `room` octets. -/
def beginning (room : Nat) : List Char → List Char
  | [] => []
  | c :: cs => if c.utf8Size ≤ room then c :: beginning (room - c.utf8Size) cs else []

/-- The longest ending whose UTF-8 form has at most `room` octets. -/
def ending (room : Nat) (cs : List Char) : List Char :=
  (beginning room cs.reverse).reverse

/-- The text itself up to fifty octets; a longer one is cut to 25 octets at its beginning and 24
at its end, with three dots between them. -/
def abbreviate (s : String) : String :=
  if octets s.toList ≤ 50 then s
  else String.ofList (beginning 25 s.toList ++ ['.', '.', '.'] ++ ending 24 s.toList)

end LayeredConfig.Text
