/-
Failures: what each stage of a run can fail with, and the exit codes that follow.

Each failure is made where it is noticed, with the kind of that place, and nothing on its way up changes it.
- `OfDescriptor`: the failures of one descriptor; `OfDescriptor.code`: their exit codes.
- `declarationAt_failure`, `Processed.failure`: a descriptor fails with one of them, however it is processed.
- `walk_failure`: a walk fails with one of storage; `resolve_failure`: settings fail with one of their own.
- `run_failure`: a whole run fails with one of storage or one of a descriptor.
-/
import Typings.Proofs.Generate.Turns
import Typings.Proofs.Settings.Precedence

namespace Typings

namespace Failure

variable {f : Failure}

/-- the exit codes of descriptors: of a type name, of the form of a document, and of storage -/
def descriptorCodes : List Int := [3, 4, 5]

/-- a failure of one descriptor -/
inductive OfDescriptor : Failure → Prop
  | typeName (name message : Text) : OfDescriptor (of (.typeName name) message)
  | form (path : Option Path) (message : Text) : OfDescriptor (of (.descriptor path) message)
  | storage (path : Option Path) (message : Text) : OfDescriptor (of (.storage path) message)

theorem OfDescriptor.code (h : OfDescriptor f) : f.exitCode ∈ descriptorCodes := by
  cases h
  · exact (by decide : (3 : Int) ∈ descriptorCodes)
  · exact (by decide : (4 : Int) ∈ descriptorCodes)
  · exact (by decide : (5 : Int) ∈ descriptorCodes)

end Failure

open Failure

/-! ## Loading and rendering -/

namespace Document

variable {form : Form} {path : Option Path} {t : Text} {f : Failure}

theorem readYaml_failure {jsonError : Option Json.Error} (h : readYaml path jsonError t = .error (.failure f)) :
    f.OfDescriptor := by
  unfold readYaml at h
  split at h
  · cases h
  · cases h
  · cases h
    exact .form _ _

theorem read_failure (h : read form path t = .error (.failure f)) : f.OfDescriptor := by
  unfold read at h
  split_ifs at h
  · exact readYaml_failure h
  · split at h
    · cases h
    · cases h
    · cases h
      exact .form _ _
  · split at h
    · cases h
    · cases h
    · exact readYaml_failure h

end Document

namespace Descriptor

variable {path : Path} {content : Bytes} {f : Failure} {fs : FileSystem}

theorem ofValue_failure {source : Option Path} {v : Value} (h : ofValue source v = .error f) : f.OfDescriptor := by
  unfold ofValue at h
  split at h
  · cases h
    exact .form _ _
  · split at h
    · cases h
    · cases h
      exact .form _ _

theorem ofBytes_failure (h : ofBytes path content = .error (.failure f)) : f.OfDescriptor := by
  unfold ofBytes at h
  split at h
  · cases h
    exact .form _ _
  · dsimp only at h
    split_ifs at h
    · cases h
      exact .form _ _
    · split at h
      · rename_i hread
        cases h
        exact Document.read_failure hread
      · split at h
        · cases h
        · rename_i hvalue
          cases h
          exact ofValue_failure hvalue

theorem load_failure (h : load fs path = .error (.failure f)) : f.OfDescriptor := by
  unfold load at h
  split at h
  · exact ofBytes_failure h
  · cases h
    exact .storage _ _
  · cases h

end Descriptor

namespace Generate

variable {fs fs' : FileSystem} {p : Path} {f : Failure} {settings : Settings} {dryRun : Bool}

/-- **A declaration fails** with a failure of its descriptor. -/
theorem declarationAt_failure (h : declarationAt fs p = .error (.failure f)) : f.OfDescriptor := by
  unfold declarationAt at h
  cases hload : Descriptor.load fs p with
  | error t =>
    rw [hload] at h
    cases h
    exact Descriptor.load_failure hload
  | ok d =>
    rw [hload] at h
    simp only [bind, Except.bind] at h
    split at h
    · cases h
    · cases h
      exact .typeName _ _

/-- and so does a descriptor, however it is processed -/
theorem Processed.failure (h : Processed settings dryRun fs p (.error (.failure f)) fs') : f.OfDescriptor := by
  cases h with
  | undeclared h => exact declarationAt_failure h
  | refused => exact .storage _ _

end Generate

/-! ## Walking and settling -/

theorem FileSystem.walk_failure {fs : FileSystem} {p : Path} {f : Failure} (h : fs.walk p = .error (.failure f)) :
    ∃ path message, f = Failure.of (.storage path) message := by
  unfold walk at h
  split at h
  · cases h
  · split at h
    · cases h
    · cases h
      exact ⟨_, _, rfl⟩
    · split at h
      · cases h
      · split at h
        · cases h
          exact ⟨_, _, rfl⟩
        · cases h
    · cases h
      exact ⟨_, _, rfl⟩

theorem FileSystem.walkSuffix_failure {fs : FileSystem} {p : Path} {suffix : Text} {f : Failure}
    (h : fs.walkSuffix p suffix = .error (.failure f)) : ∃ path message, f = Failure.of (.storage path) message := by
  unfold walkSuffix at h
  cases hwalk : fs.walk p with
  | error t =>
    rw [hwalk] at h
    cases h
    exact walk_failure hwalk
  | ok files =>
    rw [hwalk] at h
    cases h

theorem Settings.resolve_failure {fs : FileSystem} {env : Environment} {overrides : Overrides} {f : Failure}
    (h : resolve fs env overrides = .error (.failure f)) : ∃ message, f = Failure.of .settings message := by
  by_cases hask : Unaskable fs
  · obtain ⟨c, hc⟩ := resolve_of_unaskable hask env overrides
    cases hc.symm.trans h
  · rcases resolve_cases hask env overrides with ⟨s, hs, -⟩ | ⟨-, message, hfails⟩
    · cases hs.symm.trans h
    · cases hfails.symm.trans h
      exact ⟨message, rfl⟩

/-! ## Runs -/

namespace Generate

variable {fs fs' : FileSystem} {p : Path} {f : Failure} {settings : Settings} {dryRun : Bool}

theorem Turn.failure (h : Turn settings dryRun fs p (.error (.trouble (.failure f))) fs') : f.OfDescriptor := by
  cases h with
  | stopped _ h => exact h.failure

/-- **A run fails** with a failure of storage, or with one of a descriptor. -/
theorem run_failure {interrupt : Option Nat} {s : Scene}
    (h : ((run settings dryRun interrupt).run s).1 = .error (.trouble (.failure f))) : f.OfDescriptor := by
  rcases run_course settings dryRun interrupt s with ⟨t, hw, hrun⟩ | ⟨paths, r, -, hcourse, hr⟩
  · rw [hrun] at h
    cases h
    obtain ⟨path, message, rfl⟩ := FileSystem.walkSuffix_failure hw
    exact .storage _ _
  · rw [h] at hr
    cases hcourse with
    | finished t => cases hr
    | interrupted => cases hr
    | ended _ _ ht =>
      cases hr
      exact ht.failure

end Generate
end Typings
