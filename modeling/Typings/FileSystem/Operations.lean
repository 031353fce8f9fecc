/-
Operations on files and directories by path: reading, writing, making, removing.

A refusal names the path as it was given. Reading and writing go through links; what is made anew does not. No
operation is refused for the permissions of an entry, and a pipe is read as empty: nobody writes to it meanwhile.
-/
import Typings.FileSystem.Resolve

namespace Typings.FileSystem

/-- a refusal on a path -/
def refuse {α : Type} (cause : OsCause) (path : Text) : Except Crash α := .error (.os (cause.on path))

/-- the content of a file -/
def readFile (fs : FileSystem) (path : Text) : Except Crash Bytes := do
  match (← fs.entryAt path).2 with
  | .file content _ => return content
  | .directory _ => refuse .isDirectory path
  | _ => return []

/-- a file's content replaced, or a new file made -/
def writeFile (fs : FileSystem) (path : Text) (content : Bytes) : Except Crash FileSystem := do
  match ← fs.locate .creation path with
  | .absent l => return fs.put l (.file content fs.newMode)
  | .entry l (.file _ mode) => return fs.put l (.file content mode)
  | .entry _ (.directory _) => refuse .isDirectory path
  | .entry _ _ => return fs

/-- something new where nothing is -/
def makeNew (fs : FileSystem) (path : Text) (e : Entry) : Except Crash FileSystem := do
  match ← fs.locate .entry path with
  | .absent l => return fs.put l e
  | .entry _ _ => refuse .exists path

/-- whether a path leads to a directory -/
def isDirectory (fs : FileSystem) (path : Text) : Bool :=
  match fs.look path with
  | .ok (some e) => e.isDirectory
  | _ => false

/-- a directory made where none is, with the directories above it; `depth` bounds their number -/
def makeDirectories (fs : FileSystem) (path : Path) : Nat → FileSystem × Except Crash Unit
  | 0 => (fs, .ok ())
  | depth + 1 =>
    match fs.makeNew path.toText fs.newDirectory with
    | .ok fs => (fs, .ok ())
    | .error (.os e) =>
      if e.cause = .noEntry ∧ path.parent ≠ path then
        match makeDirectories fs path.parent depth with
        | (fs, .ok ()) =>
          match fs.makeNew path.toText fs.newDirectory with
          | .ok fs => (fs, .ok ())
          | .error c => (fs, if fs.isDirectory path.toText then .ok () else .error c)
        | (fs, .error c) => (fs, .error c)
      else (fs, if e.cause ≠ .noEntry ∧ fs.isDirectory path.toText then .ok () else .error (.os e))
    | .error c => (fs, .error c)

/-- a directory and all above it -/
def makeDirectory (fs : FileSystem) (path : Path) : FileSystem × Except Crash Unit :=
  fs.makeDirectories path (path.names.length + 1)

/-- an entry and all below it removed -/
def remove (fs : FileSystem) (path : Text) : Except Crash FileSystem := do
  match ← fs.locate .entry path with
  | .entry l _ => return fs.eraseAll l
  | .absent _ => refuse .noEntry path

/-- new permissions for what a path leads to -/
def changeMode (fs : FileSystem) (path : Text) (mode : Nat) : Except Crash FileSystem := do
  let (l, e) ← fs.entryAt path
  return if (fs.find? l).isSome && !l.isEmpty then fs.put l (e.withMode mode) else fs

/-- another working directory -/
def changeDirectory (fs : FileSystem) (path : Text) : Except Crash FileSystem := do
  match ← fs.entryAt path with
  | (l, .directory _) => return { fs with cwd := l }
  | _ => refuse .notDirectory path

end Typings.FileSystem
