/-
The imports of a declaration file: statements in the order of their first registration, each once.
-/
import Typings.Text.Quoted

namespace Typings

/-- the statement that binds a short name from a module -/
def importStatement (short module : Text) : Text :=
  "import \x7b " ++ short ++ " \x7d from '" ++ module ++ "'"

/-- statements in order of first registration, none of them twice -/
structure ImportSet where
  statements : List Text
  nodup : statements.Nodup
  deriving DecidableEq

namespace ImportSet

/-- no statement at all -/
def empty : ImportSet := ⟨[], List.nodup_nil⟩

instance : Inhabited ImportSet := ⟨empty⟩

/-- a new statement goes to the end; a known one keeps its place -/
def register (s : ImportSet) (statement : Text) : ImportSet :=
  if h : statement ∈ s.statements then s
  else ⟨s.statements ++ [statement], by
    rw [List.nodup_append]
    refine ⟨s.nodup, by simp, fun a ha b hb => ?_⟩
    simp only [List.mem_singleton] at hb
    rintro rfl
    exact h (hb ▸ ha)⟩

/-- registers the statement that binds a short name from a module -/
def bind (s : ImportSet) (short module : Text) : ImportSet := s.register (importStatement short module)

/-- no statement is left -/
def clear (_ : ImportSet) : ImportSet := empty

/-- how many statements there are -/
def size (s : ImportSet) : Nat := s.statements.length

/-- whether a statement is registered -/
def contains (s : ImportSet) (statement : Text) : Bool := s.statements.contains statement

/-- every statement on a line of its own -/
def render (s : ImportSet) : Text := s.statements.flatMap fun t => t ++ "\n"

/-- the set on one line, its statements quoted -/
def quoted (s : ImportSet) : Text :=
  "ImportSet([" ++ Text.join ", " (s.statements.map Text.quoted) ++ "])"

end ImportSet
end Typings
