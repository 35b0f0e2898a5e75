import LayeredConfig.Text.Quoted

/-!
Decimal numerals. A numeral is an optional sign and one or more ASCII digits, nothing else; reading
refuses a numeral of more than 4300 digits, leading zeros counted and the sign not.
-/

namespace LayeredConfig.Number

/-- The greatest number of digits that is read. -/
def digitLimit : Nat := 4300

inductive NumeralFault where
  | malformed (text : String)
  | tooLong (digits : Nat)
deriving DecidableEq, Repr

def isDigit (c : Char) : Bool :=
  '0'.toNat ≤ c.toNat && c.toNat ≤ '9'.toNat

def digitValue (c : Char) : Nat :=
  c.toNat - '0'.toNat

def digitsValue (digits : List Char) : Nat :=
  digits.foldl (fun value c => 10 * value + digitValue c) 0

/-- Takes a sign off the front and says whether it is the minus. -/
def splitSign : List Char → Bool × List Char
  | '-' :: digits => (true, digits)
  | '+' :: digits => (false, digits)
  | digits => (false, digits)

def signed (negative : Bool) (value : Nat) : Int :=
  if negative then -(value : Int) else value

def parse (text : String) : Except NumeralFault Int :=
  let (negative, digits) := splitSign text.toList
  if digits.isEmpty || !digits.all isDigit then .error (.malformed text)
  else if digits.length ≤ digitLimit then .ok (signed negative (digitsValue digits))
  else .error (.tooLong digits.length)

def parse? (text : String) : Option Int :=
  (parse text).toOption

/-- The shortest numeral of an integer. -/
def render (n : Int) : String :=
  let digits := Nat.toDigits 10 n.natAbs
  String.ofList (if n < 0 then '-' :: digits else digits)

def NumeralFault.message : NumeralFault → String
  | .malformed text => "invalid integer: " ++ Text.quote text
  | .tooLong digits =>
    "Exceeds the limit (" ++ render digitLimit ++
      " digits) for integer string conversion: value has " ++ render digits ++
      " digits; use sys.set_int_max_str_digits() to increase the limit"

end LayeredConfig.Number
