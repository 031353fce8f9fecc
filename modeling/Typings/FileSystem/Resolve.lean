/-
Resolving paths: from a path as written to the location it leads to.

Names are followed one after the other. A link leads on to its target, at most forty times; a double dot leads to the
directory above; the last name may be absent. A slash or a dot at the end of a path or of a link's target stands for
a directory. A name may have 255 octets and a path 4095.
-/
import Typings.Crash
import Typings.FileSystem.Basic

namespace Typings

/-- where a path leads -/
inductive Target
  | entry (l : Location) (e : Entry)
  /-- to a name that is not there, in a directory that is -/
  | absent (l : Location)
  deriving DecidableEq, Repr

/-- what a path is resolved for -/
inductive Purpose
  /-- for the entry itself, be it a link -/
  | entry
  /-- for what the entry leads to -/
  | target
  /-- for a file that is made if it is not there -/
  | creation
  deriving DecidableEq, Repr

namespace FileSystem

/-- the greatest number of octets of a name, and of a path -/
def nameLimit : Nat := 255
def pathLimit : Nat := 4095

/-- how many links a path may lead through -/
def linkLimit : Nat := 40

/-- a surrogate that stands for an octet which is no text -/
def isOctetSurrogate (c : CodePoint) : Bool := 0xDC80 ≤ c.val && c.val ≤ 0xDCFF

/-- the number of octets of a name -/
def octets (t : Text) : Nat :=
  t.foldr (fun c n => (if isOctetSurrogate c then 1 else (Utf8.encodeOne c).length) + n) 0

/-- the names that a path leads through; a lone dot at its end is one of them -/
def stepsOf (path : Text) : List Text :=
  let pieces := (Text.splitAt Path.slash path).filter (!·.isEmpty)
  let dot : Text := "."
  Path.namesOf path ++ (if pieces.getLast? = some dot then [dot] else [])

/-- whether a path ends with a slash, which only a directory may stand before -/
def endsOpen (path : Text) : Bool := path.getLast? == some Path.slash

/-- the directory from which a path is followed -/
def startOf (here : Location) (path : Text) : Location := if Path.rootOf path = [] then here else []

/-- follows names from a directory; `opened` tells whether a slash follows the last of them, and `onLink` goes on
through the target of a link -/
def follow (fs : FileSystem) (purpose : Purpose)
    (onLink : Bool → Location → List Text → Except OsCause Target) (opened : Bool) (start : Location) :
    List Text → Except OsCause Target
  | [] => .ok (.entry start ((fs.find? start).getD (.directory usualMode)))
  | name :: rest =>
    if name = (".." : Text) then follow fs purpose onLink opened start.dropLast rest
    else if name = ("." : Text) then follow fs purpose onLink opened start rest
    else if start.isGone then .error .noEntry
    else if nameLimit < octets name then .error .nameTooLong
    else if rest.isEmpty && opened && purpose = .creation then .error .isDirectory
    else
      let here := start ++ [name]
      match fs.find? here with
      | none => if rest.isEmpty then .ok (.absent here) else .error .noEntry
      | some (.link target) =>
        if rest.isEmpty && !opened && purpose = .entry then .ok (.entry here (.link target))
        else onLink (opened || (rest.isEmpty && endsOpen target)) (startOf start target) (stepsOf target ++ rest)
      | some (.directory _) => follow fs purpose onLink opened here rest
      | some e => if rest.isEmpty && !opened then .ok (.entry here e) else .error .notDirectory

/-- follows names through at most `links` links -/
def followLinks (fs : FileSystem) (purpose : Purpose) :
    Nat → Bool → Location → List Text → Except OsCause Target
  | 0 => follow fs purpose fun _ _ _ => .error .tooManyLinks
  | links + 1 => follow fs purpose (followLinks fs purpose links)

/-- where a path leads -/
def resolve (fs : FileSystem) (purpose : Purpose) (path : Text) : Except OsCause Target :=
  if path.isEmpty then .error .noEntry
  else if pathLimit < octets path then .error .nameTooLong
  else followLinks fs purpose linkLimit (endsOpen path) (startOf fs.cwd path) (stepsOf path)

/-- a path that the system does not even look at: one with a zero, or with surrogates that are no octets -/
def unusable (path : Text) : Option Crash :=
  if path.contains 0 then some (.value "embedded null byte")
  else match path.findIdx? fun c => c.isSurrogate && !isOctetSurrogate c with
    | some i => (Utf8.firstRun i (path.drop i)).map .encoding
    | none => none

/-- where a path leads, or why it leads nowhere -/
def locate (fs : FileSystem) (purpose : Purpose) (path : Text) : Except Crash Target :=
  match unusable path with
  | some c => .error c
  | none =>
    match fs.resolve purpose path with
    | .ok t => .ok t
    | .error cause => .error (.os (cause.on path))

/-- the entry that a path leads to through all links -/
def entryAt (fs : FileSystem) (path : Text) : Except Crash (Location × Entry) := do
  match ← fs.locate .target path with
  | .entry l e => return (l, e)
  | .absent _ => throw (.os (OsCause.noEntry.on path))

/-- the path of the working directory; one that has been removed has none -/
def workingDirectory (fs : FileSystem) : Except Crash Path :=
  if fs.cwd.isGone then .error (.os ⟨.noEntry, none, none⟩) else .ok fs.cwd.toPath

/-- a path seen from the root -/
def absolute (fs : FileSystem) (p : Path) : Except Crash Path :=
  if p.isAbsolute then .ok p else fs.workingDirectory.map fun d => d.join p

/-- whether a refusal only means that there is nothing -/
def meansAbsent : OsCause → Bool
  | .noEntry | .notDirectory | .tooManyLinks => true
  | _ => false

/-- the entry that a path leads to, or none if there is nothing; a path that cannot be used leads to nothing -/
def look (fs : FileSystem) (path : Text) : Except Crash (Option Entry) :=
  match fs.entryAt path with
  | .ok (_, e) => .ok (some e)
  | .error (.os e) => if meansAbsent e.cause then .ok none else .error (.os e)
  | .error _ => .ok none

end FileSystem
end Typings
