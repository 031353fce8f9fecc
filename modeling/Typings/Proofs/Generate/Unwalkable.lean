/-
Unwalkable sources: a run over a tree that cannot be walked does nothing.

All directories are listed before the first descriptor is processed. So it does not matter how late in the tree the
directory stands that cannot be listed, nor how many descriptors come before it.
- `run_unwalkable`: such a run ends with a failure of storage at the source, or at the first directory in depth-first
  order that cannot be listed, and leaves everything as it was.
- `removed_directory_crashes`: the price. A relative source has no path seen from the root once the working directory
  has been removed, and the run ends with a crash instead of a failure; it leaves everything as it was all the same.
-/
import Typings.Proofs.FileSystem.Reach
import Typings.Proofs.Generate.Turns

namespace Typings.Generate

open FileSystem

variable {settings : Settings} {fs : FileSystem}

/-- what stops the walk ends the run, before anything is done -/
theorem run_of_walk_error {s : Scene} {t : Trouble} (h : s.fs.walk (Path.ofText settings.sourceDir) = .error t)
    (dryRun : Bool) (interrupt : Option Nat) : (run settings dryRun interrupt).run s = (.error (.trouble t), s) := by
  have hw : s.fs.walkSuffix (Path.ofText settings.sourceDir) settings.descriptorSuffix = .error t := by
    rw [walkSuffix, h]
    rfl
  rcases run_course settings dryRun interrupt s with ⟨t', hw', hrun⟩ | ⟨paths, _, hw', -⟩
  · cases hw.symm.trans hw'
    exact hrun
  · cases hw.symm.trans hw'

/-- **A tree that cannot be walked is not touched.** A run over it ends with a failure of storage that names the source
or the first directory that cannot be listed, whether it would write or not; nothing is done and nothing is told. Every
other source is walked. Only a relative source without a working directory ends a run in another way. -/
theorem run_unwalkable (wf : fs.WellFormed) (settings : Settings) (dryRun : Bool) (interrupt : Option Nat)
    (notices : List Notice) :
    ((Path.ofText settings.sourceDir).isAbsolute = true ∨ fs.cwd.isGone = false →
      ∃ root, fs.absolute (Path.ofText settings.sourceDir) = .ok root ∧
        (fs.resolve .target root.toText ≠ .error .nameTooLong → Unwalkable fs root →
          ∃ blamed message, Blames fs root blamed message ∧
            (run settings dryRun interrupt).run ⟨fs, notices⟩ =
              (.error (.trouble (storageFailure blamed message)), ⟨fs, notices⟩)) ∧
        (¬ Unwalkable fs root → ∃ files, fs.walk (Path.ofText settings.sourceDir) = .ok files)) ∧
    ((Path.ofText settings.sourceDir).isAbsolute = false → fs.cwd.isGone = true →
      (run settings dryRun interrupt).run ⟨fs, notices⟩ =
        (.error (.trouble (.crash (.os ⟨.noEntry, none, none⟩))), ⟨fs, notices⟩)) := by
  constructor
  · intro h
    obtain ⟨root, ha⟩ := absolute_exists h
    refine ⟨root, ha, fun hlen hbad => ?_, walk_of_walkable wf ha⟩
    obtain ⟨blamed, message, hblames, hwalk⟩ := walk_of_unwalkable wf ha hlen hbad
    exact ⟨blamed, message, hblames, run_of_walk_error hwalk dryRun interrupt⟩
  · intro hrelative hgone
    have hwalk : fs.walk (Path.ofText settings.sourceDir) = .error (.crash (.os ⟨.noEntry, none, none⟩)) := by
      rw [walk, absolute_eq_error hrelative hgone]
    exact run_of_walk_error hwalk dryRun interrupt

/-- a directory that cannot be listed, behind a descriptor and two levels down -/
theorem run_unwalkable_late :
    let fs : FileSystem := ⟨[([("d" : Text)], .directory 0o755),
      (["d", "A.json"], .file (Utf8.encodeAll "\x7b\"name\":\"A\",\"methods\":[]\x7d") 0o644),
      (["d", "x"], .directory 0o755), (["d", "x", "y"], .directory 0o000)], [], 0o022, ["/d/x/y"], .usual⟩
    let settings : Settings := ⟨"d", ".json", ".d.ts", false⟩
    fs.WellFormed ∧ Unwalkable fs ⟨"/", ["d"]⟩ ∧ ∃ blamed message, Blames fs ⟨"/", ["d"]⟩ blamed message ∧
      (run settings false none).run ⟨fs, []⟩ = (.error (.trouble (storageFailure blamed message)), ⟨fs, []⟩) := by
  intro fs settings
  have wf : fs.WellFormed := by decide
  have hentry : fs.entryAt (⟨"/", ["d"]⟩ : Path).toText = .ok (["d"], .directory 0o755) := by decide +kernel
  have hreach : Reaches fs ["d"] ["x", "y"] := (reaches_iff wf.grounded (by decide)).2 (by decide)
  have hbad : Unwalkable fs ⟨"/", ["d"]⟩ := .unlistable hentry hreach (by decide)
  have hlen : fs.resolve .target (⟨"/", ["d"]⟩ : Path).toText ≠ .error .nameTooLong := by decide +kernel
  obtain ⟨root, ha, hrun, -⟩ := (run_unwalkable wf settings false none []).1 (Or.inr rfl)
  have hroot : fs.absolute (Path.ofText settings.sourceDir) = .ok ⟨"/", ["d"]⟩ := by decide +kernel
  obtain rfl : root = ⟨"/", ["d"]⟩ := Except.ok.inj (ha.symm.trans hroot)
  exact ⟨wf, hbad, hrun hlen hbad⟩

/-- **A source that is not there ends a run with a crash** if the working directory has been removed. -/
theorem removed_directory_crashes :
    let fs : FileSystem := ⟨[([("tmp" : Text)], .directory 0o777)], ["tmp", "d"].map Text.ofString ++ [[]], 0o022, [],
      .usual⟩
    let settings : Settings := ⟨"json", ".json", ".d.ts", false⟩
    fs.WellFormed ∧ (∀ k e, fs.entryAt settings.sourceDir ≠ .ok (k, e)) ∧
      ∀ blamed message,
        ((run settings false none).run ⟨fs, []⟩).1 ≠ .error (.trouble (storageFailure blamed message)) := by
  intro fs settings
  have hnone : fs.entryAt settings.sourceDir = .error (.os (OsCause.noEntry.on "json")) := by decide +kernel
  have hrun : ((run settings false none).run ⟨fs, []⟩).1 =
      .error (.trouble (.crash (.os ⟨.noEntry, none, none⟩))) := by decide +kernel
  refine ⟨by decide, fun k e h => ?_, fun blamed message h => ?_⟩
  · rw [hnone] at h
    cases h
  · rw [hrun] at h
    cases h

end Typings.Generate
