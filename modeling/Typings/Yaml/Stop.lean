/-
Stops: why the reading of a text ends early.

Besides the problems of its grammar a text can have a fault that nothing in the grammar speaks of, such as a number
with too many digits. A fault says what it is; towards the outside it is a crash.
-/
import Typings.Json.Reader
import Typings.Yaml.Place

namespace Typings.Yaml

/-- why reading ends early: a problem of the text, or a fault beyond its grammar -/
inductive Stop (Fault : Type)
  | problem (p : Problem)
  | fault (f : Fault)
  deriving DecidableEq, Repr

/-- the faults of tokens -/
inductive TokenFault
  /-- a number in a version that has more digits than are converted -/
  | version (count : Nat) (h : Json.digitLimit < count)
  /-- an escape that numbers no code point -/
  | escape (n : Nat) (h : CodePoint.ofNat? n = none)
  deriving DecidableEq, Repr

def TokenFault.crash : TokenFault → Crash
  | .version count _ => .value (Json.digitLimitMessage count)
  | .escape n _ =>
    if n < Nat.pow 2 31 then .value "chr() arg not in range(0x110000)"
    else .overflow "Python int too large to convert to C int"

end Typings.Yaml
