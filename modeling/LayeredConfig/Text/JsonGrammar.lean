import LayeredConfig.Number.Numeral
import LayeredConfig.Xml.Reference
import Mathlib.Algebra.Field.Rat

/-!
The grammar of JSON texts with what they say. It has all of JSON: any layout, every way to write a
character, numbers with fractions and exponents. A string says a text, so that half of a surrogate
pair alone says nothing.
-/

namespace LayeredConfig.Text

/-- What a JSON text can say. -/
inductive Datum where
  | null
  | boolean (value : Bool)
  | number (value : ℚ)
  | string (value : String)
  | array (items : List Datum)
  | object (members : List (String × Datum))

namespace Datum

def isSpace (c : Char) : Bool :=
  c == ' ' || c == '\t' || c == '\n' || c == '\r'

/-! ### Strings -/

/-- The characters that follow a backslash, each with the character that is meant. -/
def escapes : List (Char × Char) :=
  [('"', '"'), ('\\', '\\'), ('/', '/'), ('b', '\x08'), ('f', '\x0c'), ('n', '\n'), ('r', '\r'),
    ('t', '\t')]

def codeUnit? (first second third fourth : Char) : Option Nat := do
  let a ← Xml.hexValue? first
  let b ← Xml.hexValue? second
  let c ← Xml.hexValue? third
  let d ← Xml.hexValue? fourth
  some (16 * (16 * (16 * a + b) + c) + d)

/-- The number of the character that a surrogate pair stands for. -/
def pairValue (high low : Nat) : Nat :=
  0x10000 + 0x400 * (high - 0xd800) + (low - 0xdc00)

/-- The ways to write a character between quotation marks. -/
inductive Spells (char : Char) : List Char → Prop
  | plain : char ≠ '"' → char ≠ '\\' → 0x20 ≤ char.toNat → Spells char [char]
  | escaped {e : Char} : escapes.lookup e = some char → Spells char ['\\', e]
  | codeUnit {a b c d : Char} : codeUnit? a b c d = some char.toNat →
    Spells char ['\\', 'u', a, b, c, d]
  | surrogates {a b c d a' b' c' d' : Char} {high low : Nat} :
    codeUnit? a b c d = some high → 0xd800 ≤ high → high < 0xdc00 →
    codeUnit? a' b' c' d' = some low → 0xdc00 ≤ low → low < 0xe000 →
    char.toNat = pairValue high low →
      Spells char ['\\', 'u', a, b, c, d, '\\', 'u', a', b', c', d']

/-! ### Numbers -/

/-- Whether the digits before the point are those of a number. -/
def isWhole (digits : List Char) : Bool :=
  !digits.isEmpty && digits.all Number.isDigit &&
    (digits.head? != some '0' || digits.length == 1)

/-- The digits of a fraction, which begins with the point. -/
def decimals? : List Char → Option (List Char)
  | [] => some []
  | _ :: digits => if digits.isEmpty || !digits.all Number.isDigit then none else some digits

/-- The value of an exponent, which begins with its letter. -/
def exponent? : List Char → Option Int
  | [] => some 0
  | _ :: power =>
    let (negative, digits) := Number.splitSign power
    if digits.isEmpty || !digits.all Number.isDigit then none
    else some (Number.signed negative (Number.digitsValue digits))

def isMantissa (c : Char) : Bool :=
  c != 'e' && c != 'E'

/-- The number that a text denotes, up to the sign. -/
def unsignedNumber? (negative : Bool) (text : List Char) : Option ℚ :=
  let mantissa := text.takeWhile isMantissa
  let whole := mantissa.takeWhile (· != '.')
  if isWhole whole then do
    let decimals ← decimals? (mantissa.dropWhile (· != '.'))
    let exponent ← exponent? (text.dropWhile isMantissa)
    some (Number.signed negative (Number.digitsValue (whole ++ decimals)) *
      10 ^ (exponent - decimals.length))
  else none

def number? : List Char → Option ℚ
  | '-' :: text => unsignedNumber? true text
  | text => unsignedNumber? false text

/-! ### Texts -/

/-- The parts of a text. An element is a value with space around it. -/
inductive Phrase where
  | value (datum : Datum)
  | element (datum : Datum)
  | member (name : String) (datum : Datum)

/-- The texts of a phrase. -/
inductive Writes : List Char → Phrase → Prop
  | null : Writes "null".toList (.value .null)
  | boolean (value : Bool) : Writes (if value then "true" else "false").toList
    (.value (.boolean value))
  | number {text : List Char} {value : ℚ} : number? text = some value →
    Writes text (.value (.number value))
  | string {spelled : List (Char × List Char)} : (∀ entry ∈ spelled, Spells entry.1 entry.2) →
    Writes ('"' :: (spelled.map Prod.snd).flatten ++ ['"'])
      (.value (.string (String.ofList (spelled.map Prod.fst))))
  | emptyArray {space : List Char} : space.all isSpace →
    Writes ('[' :: space ++ [']']) (.value (.array []))
  | array {items : List (List Char × Datum)} : items ≠ [] →
    (∀ item ∈ items, Writes item.1 (.element item.2)) →
    Writes ('[' :: [','].intercalate (items.map Prod.fst) ++ [']'])
      (.value (.array (items.map Prod.snd)))
  | emptyObject {space : List Char} : space.all isSpace →
    Writes ('\x7b' :: space ++ ['\x7d']) (.value (.object []))
  | object {members : List (List Char × String × Datum)} : members ≠ [] →
    (∀ member ∈ members, Writes member.1 (.member member.2.1 member.2.2)) →
    Writes ('\x7b' :: [','].intercalate (members.map Prod.fst) ++ ['\x7d'])
      (.value (.object (members.map Prod.snd)))
  | element {before text after : List Char} {datum : Datum} : before.all isSpace →
    Writes text (.value datum) → after.all isSpace →
    Writes (before ++ text ++ after) (.element datum)
  | member {name text : List Char} {key : String} {datum : Datum} :
    Writes name (.element (.string key)) → Writes text (.element datum) →
    Writes (name ++ ':' :: text) (.member key datum)

/-- Whether a text is a JSON text that says the datum. -/
def IsTextOf (datum : Datum) (text : String) : Prop :=
  Writes text.toList (.element datum)

end Datum

end LayeredConfig.Text
