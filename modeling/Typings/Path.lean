/-
Paths as they are written: a root and the names below it.

Reading a path drops empty names and lone dots; two leading slashes, and only two, stay two. A double dot stays,
because what it leads to depends on links.
-/
import Typings.Text.Quoted

namespace Typings

structure Path where
  /-- no slash, one, or exactly two -/
  root : Text
  names : List Text
  deriving DecidableEq, Repr

namespace Path

/-- the separator of names -/
def slash : CodePoint := '/'

/-- the slashes that begin a path -/
def rootOf (t : Text) : Text :=
  match t.takeWhile (· == slash) with
  | [] => []
  | [a, b] => [a, b]
  | a :: _ => [a]

/-- the names of a path as written -/
def namesOf (t : Text) : List Text :=
  (Text.splitAt slash t).filter fun n => n != [] && n != ("." : Text)

/-- the path that a text writes -/
def ofText (t : Text) : Path := ⟨rootOf t, namesOf t⟩

/-- a path as text; the empty path is a dot -/
def toText (p : Path) : Text :=
  if p.root.isEmpty && p.names.isEmpty then "." else p.root ++ Text.join [slash] p.names

def isAbsolute (p : Path) : Bool := !p.root.isEmpty

/-- the last name, empty if there is none -/
def name (p : Path) : Text := p.names.getLast?.getD []

/-- the path without its last name -/
def parent (p : Path) : Path := { p with names := p.names.dropLast }

/-- a path seen from another one; an absolute path stays as it is -/
def join (p q : Path) : Path := if q.isAbsolute then q else ⟨p.root, p.names ++ q.names⟩

/-- one more name below a path -/
def child (p : Path) (name : Text) : Path := { p with names := p.names ++ [name] }

/-- the part of the last name from its last dot on, unless that dot begins or ends the name -/
def suffix (p : Path) : Text :=
  match p.name.splitLast '.' with
  | some (stem, extension) => if stem.isEmpty || extension.isEmpty then [] else "." ++ extension
  | none => []

/-- why a last name cannot be replaced -/
inductive NameFault
  /-- there is no last name -/
  | emptyName (p : Path)
  /-- the new name is none -/
  | invalidName (name : Text)
  deriving DecidableEq, Repr

def NameFault.message : NameFault → Text
  | .emptyName p => "PosixPath(" ++ p.toText.quoted ++ ") has an empty name"
  | .invalidName name => "Invalid name " ++ name.quoted

/-- whether a text stands for one name -/
def isName (t : Text) : Bool :=
  (rootOf t).isEmpty && (namesOf t).length == 1 && t.getLast? != some slash

/-- the path with another last name -/
def withName (p : Path) (name : Text) : Except NameFault Path :=
  if p.names.isEmpty then .error (.emptyName p)
  else if isName name then .ok (p.parent.child name)
  else .error (.invalidName name)

/-- the names that are left when each double dot takes away the name before it -/
def collapse (absolute : Bool) (names : List Text) : List Text :=
  (names.foldl (fun done n =>
    if n = ("..": Text) then
      match done with
      | [] => if absolute then [] else [n]
      | d :: rest => if d = (".." : Text) then n :: done else rest
    else n :: done) []).reverse

/-- an absolute path without double dots, read as if no name were a link -/
def normalize (p : Path) : Path := { p with names := collapse p.isAbsolute (namesOf (Text.join [slash] p.names)) }

end Path
end Typings
