/-
Crash logs: what is kept of a crash for whoever has to explain it.
-/
import Typings.DataDirectory

namespace Typings.CrashLog

/-- the directory of the logs inside the data directory -/
def directoryName : Text := "logs"

/-- the name of the log of a moment -/
def name (moment : Text) : Text := "crash-" ++ moment ++ ".log"

/-- what a log ends with -/
def lastLine (c : Crash) : Text :=
  if c.message.isEmpty then c.className else c.className ++ ": " ++ c.message

/-- the path of a log in a data directory -/
def pathIn (data : Path) (moment : Text) : Path := (data.child directoryName).child (name moment)

/-- writes the log of a crash; what is made before a refusal stays -/
def write (fs : FileSystem) (system : Text) (env : Environment) (moment : Text) (c : Crash) :
    FileSystem × Except Crash Path :=
  match DataDirectory.provide fs system env with
  | (fs, .error e) => (fs, .error e)
  | (fs, .ok data) =>
    let path := pathIn data moment
    match fs.makeDirectory path.parent with
    | (fs, .error e) => (fs, .error e)
    | (fs, .ok ()) =>
      match Utf8.encode (lastLine c ++ "\n") with
      | .error fault => (fs, .error (.encoding fault))
      | .ok octets =>
        match fs.writeFile path.toText octets with
        | .ok fs => (fs, .ok path)
        | .error e => (fs, .error e)

end Typings.CrashLog
