/-
Failures: what can go wrong by design, and the exit code each kind of it gives.
-/
import Typings.Crash
import Typings.Path
import Typings.TypeName

namespace Typings

namespace Failure

/-- kinds of failure -/
inductive Kind
  /-- of no particular kind -/
  | general
  /-- settings that cannot be used -/
  | settings
  /-- a dotted type name with nothing after its last dot -/
  | typeName (name : Text)
  /-- a descriptor that is not well-formed -/
  | descriptor (path : Option Path)
  /-- a file or directory that cannot be read or written -/
  | storage (path : Option Path)
  deriving DecidableEq, Repr

/-- the exit code of a kind -/
def Kind.exitCode : Kind → Int
  | .general => 1
  | .settings => 1
  | .typeName _ => 3
  | .descriptor _ => 4
  | .storage _ => 5

end Failure

/-- a failure that is reported -/
structure Failure where
  kind : Failure.Kind
  message : Text
  exitCode : Int
  deriving DecidableEq, Repr

namespace Failure

/-- a failure with the exit code of its kind -/
def of (kind : Kind) (message : Text) : Failure := ⟨kind, message, kind.exitCode⟩

/-- the failure of a type name -/
def unnamed (e : TypeName.Unnamed) : Failure := of (.typeName e.name) e.message

end Failure

/-- why an operation has no result: a failure that is reported, or a crash -/
inductive Trouble
  | failure (f : Failure)
  | crash (c : Crash)
  deriving DecidableEq, Repr

namespace Trouble

def message : Trouble → Text
  | .failure f => f.message
  | .crash c => c.message

end Trouble
end Typings
