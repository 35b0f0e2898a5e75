import LayeredConfig.Xml.Fault

/-!
Findings: what there is to object to in a document that can be read nevertheless. A document with
errors is refused, unless a warning came after the last of them. Of either kind a hundred count.
-/

namespace LayeredConfig.Xml

structure Findings where
  /-- The first error. -/
  fault : Option Fault
  warnings : Nat
  errors : Nat
  /-- Whether the last finding is an error. -/
  endsInError : Bool
deriving DecidableEq, Repr

namespace Findings

def none : Findings :=
  ⟨.none, 0, 0, false⟩

/-- The number of warnings that count, and of errors. -/
def limit : Nat := 100

def warn (f : Findings) : Findings :=
  if f.warnings < limit then { f with warnings := f.warnings + 1, endsInError := false } else f

def blame (f : Findings) (fault : Fault) : Findings :=
  if f.errors < limit then
    { f with fault := some (f.fault.getD fault), errors := f.errors + 1, endsInError := true }
  else f

/-- The fault that is reported where a document cannot be read on: the first error, if there is
one. -/
def first (f : Findings) (fault : Fault) : Fault :=
  f.fault.getD fault

def refusal (f : Findings) : Option Fault :=
  if f.endsInError then some (f.first .malformed) else .none

end Findings

end LayeredConfig.Xml
