import LayeredConfig.Number.Numeral

/-!
JSON texts in an indented layout: one member or item a line, two spaces for each level, and an
empty list on one line. Characters beyond ASCII are written as they are.
-/

namespace LayeredConfig.Text

/-- The JSON values that a configuration is shown as. -/
inductive Json where
  | null
  | boolean (value : Bool)
  | integer (value : Int)
  | string (value : String)
  | strings (values : List String)
  | object (members : List (String × Json))

namespace Json

def escape (c : Char) : List Char :=
  if c = '"' then ['\\', '"']
  else if c = '\\' then ['\\', '\\']
  else if c = '\x08' then ['\\', 'b']
  else if c = '\x0c' then ['\\', 'f']
  else if c = '\n' then ['\\', 'n']
  else if c = '\r' then ['\\', 'r']
  else if c = '\t' then ['\\', 't']
  else if c.toNat < 0x20 then '\\' :: 'u' :: hexDigits 4 c.toNat
  else [c]

def quoted (s : String) : String :=
  String.ofList ('"' :: s.toList.flatMap escape ++ ['"'])

/-- A line end and the blanks of a level. -/
def newLine (level : Nat) : String :=
  "\n" ++ String.ofList (List.replicate (2 * level) ' ')

def enclosed (level : Nat) (opening closing : String) (lines : List String) : String :=
  if lines.isEmpty then opening ++ closing
  else opening ++ newLine (level + 1) ++ ("," ++ newLine (level + 1)).intercalate lines ++
    newLine level ++ closing

mutual

def render (level : Nat) : Json → String
  | .null => "null"
  | .boolean value => if value then "true" else "false"
  | .integer value => Number.render value
  | .string value => quoted value
  | .strings values => enclosed level "[" "]" (values.map quoted)
  | .object members => enclosed level "\x7b" "\x7d" (renderMembers (level + 1) members)

def renderMembers (level : Nat) : List (String × Json) → List String
  | [] => []
  | (name, value) :: members =>
    (quoted name ++ ": " ++ render level value) :: renderMembers level members

end

end Json

end LayeredConfig.Text
