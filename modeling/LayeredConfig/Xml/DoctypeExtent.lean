/-!
The extent of a document type declaration: where the `>` stands that ends it. Angle brackets and
square brackets inside literals, comments, instructions and the declarations of the internal subset
do not count.
-/

namespace LayeredConfig.Xml

/-- Where in a document type declaration a character stands. -/
inductive DoctypeExtent where
  | outside
  | outsideLiteral (mark : Char)
  | subset
  | markup
  | markupBang
  | markupBangHyphen
  | declaration
  | declarationLiteral (mark : Char)
  | comment (hyphens : Nat)
  | instruction (question : Bool)
deriving DecidableEq, Repr

namespace DoctypeExtent

/-- Where the character after `c` stands inside a declaration of the subset. -/
def insideDeclaration (c : Char) : DoctypeExtent :=
  if c = '>' then .subset
  else if c = '"' || c = '\'' then .declarationLiteral c
  else .declaration

/-- Where the next character stands; nothing if this one ends the declaration. -/
def next (extent : DoctypeExtent) (c : Char) : Option DoctypeExtent :=
  match extent with
  | .outside =>
    if c = '>' then none
    else if c = '[' then some .subset
    else if c = '"' || c = '\'' then some (.outsideLiteral c)
    else some .outside
  | .outsideLiteral mark => some (if c = mark then .outside else .outsideLiteral mark)
  | .subset => some (if c = ']' then .outside else if c = '<' then .markup else .subset)
  | .markup =>
    some (if c = '!' then .markupBang else if c = '?' then .instruction false else .subset)
  | .markupBang => some (if c = '-' then .markupBangHyphen else insideDeclaration c)
  | .markupBangHyphen => some (if c = '-' then .comment 0 else insideDeclaration c)
  | .declaration => some (insideDeclaration c)
  | .declarationLiteral mark =>
    some (if c = mark then .declaration else .declarationLiteral mark)
  | .comment hyphens =>
    some (if c = '-' then .comment (min 2 (hyphens + 1))
      else if c = '>' && hyphens == 2 then .subset
      else .comment 0)
  | .instruction question =>
    some (if c = '>' && question then .subset else .instruction (c == '?'))

end DoctypeExtent

end LayeredConfig.Xml
