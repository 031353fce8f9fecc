/-
Type names: bare (`Foo`) or dotted (`com.example.Foo`), and what a declaration writes for them.

A dotted name is written as its part after the last dot, and unless that part is written as a primitive the
name's package is imported. A name that ends with its dot has nothing to write.
-/
import Typings.Imports

namespace Typings

namespace TypeName

/-- a name with nothing after its last dot -/
structure Unnamed where
  name : Text
  deriving DecidableEq, Repr

def Unnamed.message (e : Unnamed) : Text :=
  "Invalid type: " ++ e.name.quoted ++ " has no name after the last '.'"

/-- package and short name; a bare name has an empty package -/
def split (name : Text) : Except Unnamed (Text × Text) :=
  match name.splitLast '.' with
  | some (package, short) => if short.isEmpty then .error ⟨name⟩ else .ok (package, short)
  | none => if name.isEmpty then .error ⟨name⟩ else .ok ([], name)

/-- the part after the last dot, the whole name without one -/
def short (name : Text) : Text :=
  match name.splitLast '.' with
  | some (_, short) => short
  | none => name

/-- how the primitive types are written; all other short names stand for themselves -/
def spellings : List (Text × Text) :=
  [("boolean", "boolean"), ("String", "string"), ("void", "void")]

/-- what is written for a short name -/
def spell (short : Text) : Text := (spellings.lookup short).getD short

/-- a written name that never needs an import -/
def isPrimitive (written : Text) : Bool := spellings.any fun p => p.2 == written

end TypeName

/-- a computation that collects imports; what it has collected stays when it fails -/
abbrev Resolving (α : Type) := ExceptT TypeName.Unnamed (StateM ImportSet) α

namespace TypeName

/-- what is written for a type name; a dotted name that is no primitive leaves its import -/
def resolve (name : Text) : Resolving Text := do
  if name.contains (CodePoint.ofChar '.') then
    let (package, short) ← liftM (split name)
    unless isPrimitive (spell short) do
      modify (·.bind short package)
    return spell short
  else
    return spell name

end TypeName
end Typings
