/-
Walking a directory: the files in it and below it.

The walk goes down into directories where it meets them and passes over links, pipes and all else that is no file.
Nothing is given unless every directory on the way can be listed.
-/
import Typings.Failure
import Typings.FileSystem.Operations

namespace Typings

namespace FileSystem

/-- a failure of storage at a path -/
def storageFailure (path : Path) (message : Text) : Trouble :=
  .failure (Failure.of (.storage (some path)) message)

/-- a directory below a path -/
def descend (path : Path) (names : Location) : Path := { path with names := path.names ++ names }

/-- the directories of a walk in the order in which they are listed -/
def walkDirectories (fs : FileSystem) (root : Path) (l : Location) : List Path :=
  root :: (fs.below l).filterMap fun (names, e) => if e.isDirectory then some (descend root names) else none

/-- the files of a walk in the order in which they are met -/
def walkFiles (fs : FileSystem) (root : Path) (l : Location) : List Path :=
  (fs.below l).filterMap fun (names, e) => match e with
    | .file _ _ => some (descend root names)
    | _ => none

/-- whether a directory can be listed -/
def canList (fs : FileSystem) (path : Path) : Bool := !fs.denied.contains path.toText

/-- the files in a directory and below it -/
def walk (fs : FileSystem) (path : Path) : Except Trouble (List Path) :=
  match fs.absolute path with
  | .error c => .error (.crash c)
  | .ok root =>
    match fs.look root.toText with
    | .error c => .error (.crash c)
    | .ok none => .error (storageFailure root ("Source directory not found: " ++ root.toText))
    | .ok (some (.directory _)) =>
      match fs.entryAt root.toText with
      | .error c => .error (.crash c)
      | .ok (l, _) =>
        match (fs.walkDirectories root l).find? fun d => !fs.canList d with
        | some d =>
          .error (storageFailure d ("Cannot read directory " ++ d.toText ++ ": "
            ++ (OsCause.permission.on d.toText).message))
        | none => .ok (fs.walkFiles root l)
    | .ok (some _) => .error (storageFailure root ("Source path is not a directory: " ++ root.toText))

/-- the files of a walk whose names end with a suffix -/
def walkSuffix (fs : FileSystem) (path : Path) (suffix : Text) : Except Trouble (List Path) :=
  (fs.walk path).map fun files => files.filter fun p => p.name.endsWith suffix

end FileSystem
end Typings
