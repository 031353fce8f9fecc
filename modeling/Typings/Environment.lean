/-
The environment: the variables of a process.
-/
import Typings.Text.Basic

namespace Typings

/-- names and values; the first entry of a name counts -/
abbrev Environment := List (Text × Text)

/-- the value of a variable -/
def Environment.get? (env : Environment) (name : Text) : Option Text := env.lookup name

end Typings
