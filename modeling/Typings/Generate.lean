/-
Generation: a declaration file beside every descriptor of a directory tree.

A descriptor is loaded and rendered, and its declaration replaces the file beside it unless that file holds exactly
the same octets. A run lists all descriptors before it processes the first. A failing descriptor is reported and
passed over, unless the settings make the first failure the end of the run; a crash or an interrupt always ends it.
The replacement of a single declaration may be disturbed; the interrupt of a whole run comes before a descriptor.
-/
import Typings.Declaration
import Typings.Descriptor.Load
import Typings.FileSystem.Replace
import Typings.FileSystem.Walk
import Typings.Notice
import Typings.Report
import Typings.Settings

namespace Typings

/-- what ends a run before its report -/
inductive Ending
  | trouble (t : Trouble)
  | interrupt
  deriving DecidableEq, Repr

/-- what a run changes and tells -/
structure Scene where
  fs : FileSystem
  /-- in the order in which they were told -/
  notices : List Notice

/-- a computation on a scene; what it has changed and told stays when it ends early -/
abbrev Running (α : Type) := ExceptT Ending (StateM Scene) α

namespace Running

/-- tells a notice; this never fails, whatever becomes of the second stream -/
def tell (n : Notice) : Running Unit := modify fun s => { s with notices := s.notices ++ [n] }

def fail {α : Type} (f : Failure) : Running α := throw (.trouble (.failure f))

def crash {α : Type} (c : Crash) : Running α := throw (.trouble (.crash c))

/-- the result of an operation that leaves the scene as it is -/
def lift {α : Type} : Except Trouble α → Running α
  | .ok a => pure a
  | .error t => throw (.trouble t)

end Running

namespace Generate

open Running

/-- a descriptor's name without its suffix; where descriptors have no suffix nothing is left of the name -/
def stem (name suffix : Text) : Text := if suffix.isEmpty then [] else Text.dropSuffix name suffix

/-- the path of the declaration of a descriptor: beside it, with the other suffix -/
def outputPath (path : Path) (settings : Settings) : Except Path.NameFault Path :=
  path.withName (stem path.name settings.descriptorSuffix ++ settings.declarationSuffix)

/-- the text of the declaration of the descriptor at a path -/
def declarationAt (fs : FileSystem) (path : Path) : Except Trouble Text := do
  let d ← Descriptor.load fs path
  match d.declarationFile with
  | .ok t => return t
  | .error e => throw (.failure (Failure.unnamed e))

/-- whether the file at a path holds exactly the octets of a text -/
def hasContent (fs : FileSystem) (path : Path) (text : Text) : Except Crash Bool :=
  match fs.readFile path.toText with
  | .ok content =>
    match Utf8.encode text with
    | .ok octets => .ok (content == octets)
    | .error fault => .error (.encoding fault)
  | .error (.os _) => .ok false
  | .error c => .error c

/-- replaces the file at a path, with a disturbance or without -/
def write (strike : Option Replace.Strike) (path : Path) (text : Text) : Running Unit := do
  let s ← get
  let outcome := Replace.run s.fs path text strike
  set { s with fs := outcome.fs }
  match outcome.result with
  | .ok () => return
  | .error .interrupt => throw .interrupt
  | .error (.crash (.os e)) =>
    fail (Failure.of (.storage (some path)) ("Failed to write " ++ path.toText ++ ": " ++ e.message))
  | .error (.crash c) => crash c

/-- a result that is no failure -/
def result (path output : Path) (status : Status) : FileResult :=
  ⟨path.toText, some output.toText, status, none, none⟩

/-- processes one descriptor; a disturbance may strike while its declaration is written -/
def processFile (settings : Settings) (dryRun : Bool) (strike : Option Replace.Strike) (path : Path) :
    Running FileResult := do
  tell (.debug ("Loading " ++ path.toText))
  let text ← lift (declarationAt (← get).fs path)
  let output ← match outputPath path settings with
    | .ok p => pure p
    | .error fault => crash (.value fault.message)
  if dryRun then
    tell (.progress ("Would write " ++ output.toText))
    return result path output .planned
  match hasContent (← get).fs output text with
  | .error c => crash c
  | .ok true =>
    tell (.debug ("Unchanged " ++ output.toText))
    return result path output .unchanged
  | .ok false =>
    write strike output text
    tell (.progress ("Wrote " ++ output.toText))
    return result path output .written

/-- the result of a descriptor that failed -/
def failedResult (path : Path) (f : Failure) : FileResult :=
  ⟨path.toText, none, .failed, some f.message, some f.exitCode⟩

/-- processes one descriptor; a failure is told and recorded unless it ends the run -/
def attempt (settings : Settings) (dryRun : Bool) (path : Path) : Running FileResult :=
  tryCatch (processFile settings dryRun none path) fun
    | .trouble (.failure f) => do
      if settings.failFast then fail f
      tell (.warning ("Skipping " ++ path.toText ++ ": " ++ f.message))
      return failedResult path f
    | ending => throw ending

/-- processes descriptors in turn; an interrupt may come before one of them, counted from one -/
def processAll (settings : Settings) (dryRun : Bool) (interrupt : Option Nat) :
    List Path → Running (List FileResult)
  | [] => return []
  | path :: rest => do
    if interrupt = some 1 then throw .interrupt
    let r ← attempt settings dryRun path
    return r :: (← processAll settings dryRun (interrupt.map (· - 1)) rest)

/-- a whole run -/
def run (settings : Settings) (dryRun : Bool) (interrupt : Option Nat) : Running Report := do
  let paths ← lift ((← get).fs.walkSuffix (Path.ofText settings.sourceDir) settings.descriptorSuffix)
  return ⟨settings.sourceDir, dryRun, ← processAll settings dryRun interrupt paths⟩

end Generate
end Typings
