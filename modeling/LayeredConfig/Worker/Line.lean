import LayeredConfig.Worker.Arguments

/-!
The line that a process is started with on Windows, and how the started process divides it into its
arguments. Spaces and tabs separate arguments. A quotation mark turns on or off that they are read
as characters. Backslashes are characters, but before a quotation mark two of them stand for one,
and after an odd number of them the quotation mark is a character too.
-/

namespace LayeredConfig.Worker

/-- An argument that has begun: what was read of it, the backslashes that follow, whose meaning the
next character decides, and whether separators are read as characters. -/
structure Begun where
  text : List Char
  backslashes : Nat
  quoted : Bool

namespace Begun

def argument (begun : Begun) : List Char :=
  begun.text ++ List.replicate begun.backslashes '\\'

def read (begun : Begun) (c : Char) : Begun :=
  if c = '\\' then { begun with backslashes := begun.backslashes + 1 }
  else if c = '"' then
    let text := begun.text ++ List.replicate (begun.backslashes / 2) '\\'
    if begun.backslashes % 2 = 0 then ⟨text, 0, !begun.quoted⟩
    else ⟨text ++ ['"'], 0, begun.quoted⟩
  else ⟨begun.argument ++ [c], 0, begun.quoted⟩

end Begun

def isSeparator (c : Char) : Bool :=
  c == ' ' || c == '\t'

/-- What has begun after one more character; `none` between two arguments. -/
def next (begun : Option Begun) (c : Char) : Option Begun :=
  if isSeparator c && !begun.any Begun.quoted then none
  else some ((begun.getD ⟨[], 0, false⟩).read c)

/-- The arguments that end in a text, or with it. -/
def argumentsFrom : Option Begun → List Char → List (List Char)
  | begun, [] => (begun.map Begun.argument).toList
  | begun, c :: cs =>
    match next begun c with
    | none => (begun.map Begun.argument).toList ++ argumentsFrom none cs
    | some longer => argumentsFrom (some longer) cs

def splitLine (line : String) : List String :=
  (argumentsFrom none line.toList).map String.ofList

def line (words : List String) : String :=
  " ".intercalate words

/-- Whether a line does not end between two quotation marks. -/
def IsClosed (line : String) : Prop :=
  (line.toList.foldl next none).any Begun.quoted = false

instance (line : String) : Decidable (IsClosed line) :=
  inferInstanceAs (Decidable (_ = _))

/-- Whether a word arrives as one argument, which is the value, wherever in a line it stands. -/
def ArrivesAs (word value : String) : Prop :=
  ∀ before after : List String, IsClosed (line before) →
    splitLine (line (before ++ word :: after)) =
      splitLine (line before) ++ value :: splitLine (line after)

end LayeredConfig.Worker
