/-
Notices: what a run tells on the way, by kind. How they are shown, and whether, is the console's business.
-/
import Typings.Text.Basic

namespace Typings

inductive Notice
  | info (message : Text)
  | success (message : Text)
  | warning (message : Text)
  | error (message : Text)
  /-- told only where much is to be told -/
  | debug (message : Text)
  /-- told only to somebody who watches -/
  | progress (message : Text)
  deriving DecidableEq, Repr

end Typings
