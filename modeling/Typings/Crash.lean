/-
Crashes: errors that no layer plans for. Each has a name and a message, which the crash report ends with.
-/
import Typings.FileSystem.Error

namespace Typings

inductive Crash
  /-- a value outside the domain of an operation -/
  | value (message : Text)
  /-- a text that has no octets -/
  | encoding (fault : Utf8.Unencodable)
  /-- a drawn text that has no octets -/
  | drawing (fault : Utf8.Unencodable)
  /-- a look-up of an unknown key, shown quoted -/
  | key (key : Text)
  /-- a position outside a text -/
  | index (message : Text)
  /-- a question to something that cannot answer it -/
  | attribute (message : Text)
  /-- an operand of the wrong kind -/
  | operand (message : Text)
  /-- a number beyond a machine word -/
  | overflow (message : Text)
  /-- a question about the process that has no answer -/
  | runtime (message : Text)
  /-- data of the wrong shape -/
  | shape (message : Text)
  /-- tags that do not match -/
  | markup (message : Text)
  | os (e : OsError)
  deriving DecidableEq, Repr

namespace Crash

/-- the kind of a crash, as its report names it -/
def className : Crash → Text
  | .value _ => "ValueError"
  | .encoding _ | .drawing _ => "UnicodeEncodeError"
  | .key _ => "KeyError"
  | .index _ => "IndexError"
  | .attribute _ => "AttributeError"
  | .operand _ => "TypeError"
  | .overflow _ => "OverflowError"
  | .runtime _ => "RuntimeError"
  | .shape _ => "ValidationError"
  | .markup _ => "MarkupError"
  | .os e => e.cause.className

/-- what may help when a drawn text has no octets -/
def drawingHint : Text := "*** You may need to add PYTHONIOENCODING=utf-8 to your environment ***"

def message : Crash → Text
  | .value m => m
  | .encoding fault => fault.message
  | .drawing fault => fault.message ++ "\n" ++ drawingHint
  | .key k => k.quoted
  | .index m => m
  | .attribute m => m
  | .operand m => m
  | .overflow m => m
  | .runtime m => m
  | .shape m => m
  | .markup m => m
  | .os e => e.message

end Crash
end Typings
