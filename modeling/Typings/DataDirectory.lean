/-
The directory for a user's data: under the base that the environment names on systems that keep such a base, and
hidden in the home directory on others.
-/
import Typings.Environment
import Typings.FileSystem.Operations

namespace Typings.DataDirectory

/-- the name of the directory -/
def name : Text := "dtsgen"

/-- whether a system keeps a base directory for user data -/
def hasBase (system : Text) : Bool := system == "Linux" || system.endsWith "BSD"

/-- the home of a user whom the environment does not tell -/
def superuserHome : Text := "/root"

/-- the user's home directory -/
def home (env : Environment) : Except Crash Path :=
  match Environment.get? env "HOME" with
  | none => .ok (Path.ofText superuserHome)
  | some t =>
    let trimmed := (t.reverse.dropWhile (· == Path.slash)).reverse
    if trimmed.isEmpty then .ok (Path.ofText "/")
    else if Text.startsWith trimmed "~" then .error (.runtime "Could not determine home directory.")
    else .ok (Path.ofText trimmed)

/-- the path of the data directory -/
def path (system : Text) (env : Environment) : Except Crash Path :=
  if hasBase system then
    match Environment.get? env "XDG_DATA_HOME" with
    | some base =>
      if base.isEmpty then (home env).map fun p => ((p.child ".local").child "share").child name
      else .ok ((Path.ofText base).child name)
    | none => (home env).map fun p => ((p.child ".local").child "share").child name
  else (home env).map fun p => p.child ("." ++ name)

/-- the data directory, made if it is not there -/
def provide (fs : FileSystem) (system : Text) (env : Environment) : FileSystem × Except Crash Path :=
  match path system env with
  | .error c => (fs, .error c)
  | .ok p =>
    match fs.makeDirectory p with
    | (fs, .ok ()) => (fs, .ok p)
    | (fs, .error c) => (fs, .error c)

end Typings.DataDirectory
