/-
Calls: what a set of imports holds after any calls on it.

A statement is registered as it is, by its parts or for a name that is resolved, and between these calls the set may be
cleared. What it then holds is told by the calls since it was last cleared, and by nothing else.
- `perform_eq`: a call that does not clear registers its statements one after another.
- `after_eq`: so the set holds what was registered since it was last cleared.
- `pairwise_eraseDups`: statements without their repetitions stand in the order of their first registration.
- `after_ordered`: what is seen of the set after any calls.
-/
import Mathlib.Data.List.DropRight
import Typings.Proofs.Declaration.Names

namespace Typings.ImportSet

open Typings.TypeName

/-! ## Calls -/

/-- a call that may change a set -/
inductive Call
  | register (statement : Text)
  | bind (short module : Text)
  | clear
  | resolve (name : Text)
  deriving DecidableEq

/-- the set after a call; whether a name could be resolved does not matter for the next call -/
def Call.perform (s : ImportSet) : Call → ImportSet
  | .register statement => s.register statement
  | .bind short module => s.bind short module
  | .clear => s.clear
  | .resolve name => ((TypeName.resolve name).run s).2

/-- a new set after calls in turn -/
def after (calls : List Call) : ImportSet := calls.foldl Call.perform empty

/-- the statements that a call registers: a name that is resolved leaves one if it needs an import -/
def Call.registered : Call → List Text
  | .register statement => [statement]
  | .bind short module => [importStatement short module]
  | .clear => []
  | .resolve name => if dangles name then [] else (statement? name).toList

/-- the calls since the last one that cleared the set, all of them without one -/
def sinceClear (calls : List Call) : List Call := calls.rtakeWhile (· ≠ .clear)

/-- the statements that were registered since the set was last cleared, with repetitions -/
def registered (calls : List Call) : List Text := (sinceClear calls).flatMap Call.registered

variable {s : ImportSet} {call : Call}

/-! ## One call -/

/-- **A call registers its statements**, unless it clears the set. -/
theorem perform_eq (h : call ≠ .clear) : call.perform s = s.registerAll call.registered := by
  cases call with
  | register statement => rfl
  | bind short module => rfl
  | clear => exact absurd rfl h
  | resolve name =>
    rw [Call.perform, resolve_run, Call.registered]
    split_ifs <;> rfl

theorem after_concat (calls : List Call) (call : Call) : after (calls ++ [call]) = call.perform (after calls) := by
  simp [after]

theorem registered_concat (calls : List Call) (call : Call) :
    registered (calls ++ [call]) = if call = .clear then [] else registered calls ++ call.registered := by
  rw [registered, sinceClear, List.rtakeWhile_concat]
  by_cases h : call = .clear
  · simp [h]
  · simp [h, registered, sinceClear]

/-! ## All calls -/

/-- **A set holds what was registered** since it was last cleared. -/
theorem after_eq (calls : List Call) : after calls = empty.registerAll (registered calls) := by
  induction calls using List.reverseRecOn with
  | nil => rfl
  | append_singleton calls call ih =>
    rw [after_concat, registered_concat]
    by_cases h : call = .clear
    · rw [if_pos h, h]
      rfl
    · rw [if_neg h, perform_eq h, ih, registerAll_append]

theorem after_statements (calls : List Call) : (after calls).statements = (registered calls).eraseDups := by
  rw [after_eq]
  exact registerAll_empty (registered calls)

/-- without their repetitions, statements stand in the order of their first registration -/
theorem pairwise_eraseDups (ts : List Text) : ts.eraseDups.Pairwise fun t u => ts.idxOf t < ts.idxOf u := by
  induction ts using List.reverseRecOn with
  | nil => exact List.Pairwise.nil
  | append_singleton ts t ih =>
    have hmem : ∀ u ∈ ts.eraseDups, u ∈ ts := fun u hu => List.mem_eraseDups.1 hu
    -- what was registered before keeps its place
    have hold : ts.eraseDups.Pairwise fun u v => (ts ++ [t]).idxOf u < (ts ++ [t]).idxOf v := by
      refine ih.imp_of_mem fun hu hv h => ?_
      rwa [List.idxOf_append_of_mem (hmem _ hu), List.idxOf_append_of_mem (hmem _ hv)]
    by_cases ht : t ∈ ts
    · have hsame : (ts ++ [t]).eraseDups = ts.eraseDups := by
        simp [List.eraseDups_append, List.removeAll, ht]
      rw [hsame]
      exact hold
    · have hnew : (ts ++ [t]).eraseDups = ts.eraseDups ++ [t] := by
        simp [List.eraseDups_append, List.removeAll, List.eraseDups_cons, ht]
      rw [hnew, List.pairwise_append]
      refine ⟨hold, List.pairwise_singleton _ _, fun u hu v hv => ?_⟩
      rw [List.mem_singleton.1 hv]
      simpa only [List.idxOf_append_of_mem (hmem u hu), List.idxOf_append_of_notMem ht, List.idxOf_cons_self,
        Nat.add_zero] using List.idxOf_lt_length_of_mem (hmem u hu)

/-- **A set is ordered.** After any calls it holds what was registered since it was last cleared, without repetitions
and in the order of the first registrations. How many statements there are, whether a text is one of them and what is
rendered is told by these statements alone, and a name that cannot be resolved leaves all of them as they are. -/
theorem after_ordered (calls : List Call) :
    (after calls).statements = (registered calls).eraseDups ∧
    (after calls).statements.Pairwise (fun t u => (registered calls).idxOf t < (registered calls).idxOf u) ∧
    (after calls).statements.Nodup ∧
    (after calls).size = (after calls).statements.length ∧
    (∀ t, (after calls).contains t = true ↔ t ∈ (after calls).statements) ∧
    (after calls).render = ((after calls).statements.map fun t : Text => t ++ "\n").flatten ∧
    ∀ name e, ((TypeName.resolve name).run (after calls)).1 = .error e →
      after (calls ++ [.resolve name]) = after calls := by
  have hstatements := after_statements calls
  refine ⟨hstatements, ?_, (after calls).nodup, rfl, fun t => List.contains_iff_mem, List.flatMap_def, ?_⟩
  · rw [hstatements]
    exact pairwise_eraseDups (registered calls)
  · intro name e h
    rw [resolve_run] at h
    rw [after_concat, Call.perform, resolve_run]
    split_ifs at h ⊢
    rfl

/-- a statement that is there keeps its place, one from before the set was cleared does not -/
example : (after [.register "b", .clear, .resolve "x.A", .bind "B" "y", .resolve "x.", .resolve "x.A",
    .register "b"]).statements = [importStatement "A" "x", importStatement "B" "y", "b"] := by
  decide

end Typings.ImportSet
