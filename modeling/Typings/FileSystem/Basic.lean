/-
File systems as values.

A file system is the list of its entries in the order of their locations: a location is the list of names from the
root, and the names of a directory come in the order in which the system lists them, so a directory stands before what
it holds and its whole content stands before the next entry. The root itself is always there. A directory that is
removed while somebody works in it stays theirs, empty and without a name.

Two things are the system's own choice, the order of each listing and the names it draws for temporary files; a file
system holds them, so what is shown of every file system is shown of every choice. The permissions of an entry are
kept and passed on, but nobody is refused for them: a directory that cannot be listed is named apart, and every file
can be read. A pipe is read as empty.
-/
import Typings.Path

namespace Typings

/-- the names from the root to an entry -/
abbrev Location := List Text

/-- a strict order of the names in each directory: the one in which they are listed -/
structure ListingOrder where
  /-- whether a name comes before another in the directory at a location -/
  before : Location → Text → Text → Bool
  irrefl : ∀ d a, before d a a = false
  trans : ∀ d a b c, before d a b = true → before d b c = true → before d a c = true
  total : ∀ d a b, a ≠ b → before d a b = true ∨ before d b a = true

/-- names in the order of their code points, in every directory -/
def ListingOrder.byCodePoint : ListingOrder where
  before _ := Text.before
  irrefl _ := Text.before_irrefl
  trans _ _ _ _ := Text.before_trans
  total _ _ _ := Text.before_total

/-- what can be drawn for a temporary name: eight small letters, digits and underscores -/
structure Draw where
  text : Text
  length_eq : text.length = 8
  plain : (text.all fun c => c.isDigit || (0x61 ≤ c.val && c.val ≤ 0x7A) || c == CodePoint.ofChar '_') = true

/-- the draws for one temporary name, in the order in which they are tried -/
structure Draws where
  first : Draw
  others : List Draw

/-- what a system chooses for itself -/
structure Choices where
  order : ListingOrder
  /-- the draws for the temporary file that replaces the one at a path -/
  draws : Path → Draws

/-- listings by code points, and one draw of zeros for every name -/
def Choices.usual : Choices := ⟨.byCodePoint, fun _ => ⟨⟨"00000000", by decide, by decide⟩, []⟩⟩

namespace Location

/-- the order of a walk from a directory: by the first names that differ, a directory before its content -/
def before (o : ListingOrder) : Location → Location → Location → Bool
  | _, [], [] => false
  | _, [], _ :: _ => true
  | _, _ :: _, [] => false
  | d, a :: r, b :: s => o.before d a b || (a == b && before o (d ++ [a]) r s)

/-- a location as an absolute path -/
def toPath (l : Location) : Path := ⟨"/", l⟩

/-- whether a directory has been removed: then its name is empty -/
def isGone (l : Location) : Bool := l.contains []

/-- a location once `gone` and all below it is removed -/
def without (l gone : Location) : Location :=
  if gone.isPrefixOf l then gone.dropLast ++ List.replicate (l.length + 1 - gone.length) [] else l

end Location

/-- what stands at a location -/
inductive Entry
  | file (content : Bytes) (mode : Nat)
  | directory (mode : Nat)
  | link (target : Text)
  /-- a pipe: there, but neither a file nor a directory -/
  | pipe (mode : Nat)
  deriving DecidableEq, Repr

/-- the permissions of an entry -/
def Entry.mode : Entry → Nat
  | .file _ mode => mode
  | .pipe mode => mode
  | .directory mode => mode
  | .link _ => 0o777

/-- an entry with other permissions; links have none of their own -/
def Entry.withMode (mode : Nat) : Entry → Entry
  | .file content _ => .file content mode
  | .pipe _ => .pipe mode
  | .directory _ => .directory mode
  | .link target => .link target

def Entry.isDirectory : Entry → Bool
  | .directory _ => true
  | _ => false

structure FileSystem where
  /-- in the order of their locations -/
  entries : List (Location × Entry)
  /-- the working directory -/
  cwd : Location
  /-- permissions that new files do not get -/
  umask : Nat
  /-- paths of directories that cannot be listed -/
  denied : List Text
  choices : Choices

namespace FileSystem

/-- puts an entry at its place in the order, over one that is there -/
def insertEntry (o : ListingOrder) (l : Location) (e : Entry) : List (Location × Entry) → List (Location × Entry)
  | [] => [(l, e)]
  | (k, d) :: r =>
    if k = l then (l, e) :: r
    else if Location.before o [] l k then (l, e) :: (k, d) :: r
    else (k, d) :: insertEntry o l e r

/-- the permissions of directories that nothing is told about -/
def usualMode : Nat := 0o755

/-- what stands at a location -/
def find? (fs : FileSystem) (l : Location) : Option Entry :=
  if l.isEmpty then some (.directory usualMode) else fs.entries.lookup l

/-- the file system with an entry at a location -/
def put (fs : FileSystem) (l : Location) (e : Entry) : FileSystem :=
  { fs with entries := insertEntry fs.choices.order l e fs.entries }

/-- the file system without the entry at a location -/
def erase (fs : FileSystem) (l : Location) : FileSystem :=
  { fs with entries := fs.entries.filter fun e => e.1 != l }

/-- the file system without a location and all below it -/
def eraseAll (fs : FileSystem) (l : Location) : FileSystem :=
  { fs with entries := fs.entries.filter fun e => !l.isPrefixOf e.1, cwd := fs.cwd.without l }

/-- the entries strictly below a location, in order, with the names that lead to them from there -/
def below (fs : FileSystem) (l : Location) : List (Location × Entry) :=
  fs.entries.filterMap fun e =>
    if l.isPrefixOf e.1 && e.1 != l then some (e.1.drop l.length, e.2) else none

/-- the permissions that the mask leaves -/
def masked (fs : FileSystem) (mode : Nat) : Nat := mode &&& (0o777 ^^^ (fs.umask &&& 0o777))

/-- the permissions of a new file -/
def newMode (fs : FileSystem) : Nat := fs.masked 0o666

/-- a new directory -/
def newDirectory (fs : FileSystem) : Entry := .directory (fs.masked 0o777)

end FileSystem
end Typings
