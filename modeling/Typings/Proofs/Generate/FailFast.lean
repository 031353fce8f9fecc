/-
The first failure as the end of a run.

A strict run ends with the first failure; a lax one records it and goes on. Both do the same until then, over any
tree and with any suffixes.
- `Turn.grounded`, `Turn.of_failed`: a turn keeps the ground, and one that fails changes nothing.
- `Turn.strict`, `Turn.stopped_of_failed`: a turn of a lax run is one of the strict run, unless it fails; then it ends
  the strict run with the failure that the lax one records.
- `failFast_cuts`: the strict run is the lax one cut at its first failure.
-/
import Typings.Proofs.Generate.Apart

namespace Typings.Generate

open FileSystem Replace

variable {settings : Settings} {fs fs' cur mid : FileSystem} {paths ps : List Path} {p : Path} {dryRun : Bool}
  {r : FileResult} {rs : List FileResult}

/-- the settings with which the first failure ends the run -/
def strict (settings : Settings) : Settings := { settings with failFast := true }

/-! ## Turns on the ground -/

/-- descriptors whose declarations have proper paths -/
def Proper (settings : Settings) (paths : List Path) : Prop :=
  ∀ p ∈ paths, ∀ o, outputPath p settings = .ok o → o.IsProper

theorem proper_of_walk (wf : fs.WellFormed) {t : Text}
    (h : fs.walkSuffix (Path.ofText t) settings.descriptorSuffix = .ok paths) : Proper settings paths := by
  obtain ⟨root, l, -, hleads, rfl⟩ := walkSuffix_eq_ok wf h
  intro p hp o ho
  obtain ⟨dirs, n, hn⟩ := listed_of_mem wf hp
  exact outputPath_isProper hleads wf hn ho

/-- a turn keeps the ground -/
theorem Turn.grounded (g : Grounded cur) (proper : ∀ o, outputPath p settings = .ok o → o.IsProper)
    (h : Turn settings dryRun cur p (.ok r) mid) : Grounded mid := by
  cases h with
  | done h =>
    cases h with
    | planned => exact g
    | unchanged => exact g
    | @written text o _ ho _ _ hw =>
      have hp := proper o ho
      obtain ⟨k, octets, mode, -, hdir, hnew⟩ := replaced_renamesTo g hp hw
      rw [hnew.changed]
      exact (g.put hdir rfl).1
  | skipped _ h =>
    cases h with
    | undeclared => exact g
    | refused _ ho _ _ hw => rwa [replace_of_error g (proper _ ho) hw]

/-- a turn that fails changes nothing, and records its failure -/
theorem Turn.of_failed (g : Grounded cur) (proper : ∀ o, outputPath p settings = .ok o → o.IsProper)
    (h : Turn settings dryRun cur p (.ok r) mid) (hr : r.status = .failed) :
    mid = cur ∧ ∃ f, r = failedResult p f ∧ Processed settings dryRun cur p (.error (.failure f)) cur := by
  cases h with
  | done h => cases h <;> cases hr
  | @skipped f _ _ h =>
    have hsame : mid = cur := by
      cases h with
      | undeclared => rfl
      | refused _ ho _ _ hw => exact replace_of_error g (proper _ ho) hw
    exact ⟨hsame, f, rfl, hsame ▸ h⟩

/-! ## Strict turns -/

/-- a descriptor is processed in the same way by both runs -/
theorem Processed.strict {x : Except Trouble FileResult} (h : Processed settings dryRun cur p x mid) :
    Processed (Generate.strict settings) dryRun cur p x mid := by
  cases h with
  | undeclared h => exact .undeclared h
  | unnamed h ho => exact .unnamed h ho
  | planned h ho hd => exact .planned h ho hd
  | unread h ho hd hc => exact .unread h ho hd hc
  | unchanged h ho hd hc => exact .unchanged h ho hd hc
  | written h ho hd hc hw => exact .written h ho hd hc hw
  | refused h ho hd hc hw => exact .refused h ho hd hc hw
  | unwritten h ho hd hc hw hos => exact .unwritten h ho hd hc hw hos

/-- a turn that does not fail is one of the strict run -/
theorem Turn.strict (h : Turn settings dryRun cur p (.ok r) mid) (hr : r.status ≠ .failed) :
    Turn (Generate.strict settings) dryRun cur p (.ok r) mid := by
  cases h with
  | done h => exact .done h.strict
  | skipped => exact absurd rfl hr

/-- a turn that fails ends the strict run -/
theorem Turn.stopped_of_failed (g : Grounded cur) (proper : ∀ o, outputPath p settings = .ok o → o.IsProper)
    (h : Turn settings dryRun cur p (.ok r) mid) (hr : r.status = .failed) :
    ∃ f, r = failedResult p f ∧ Turn (Generate.strict settings) dryRun cur p (.error (.trouble (.failure f))) cur := by
  obtain ⟨-, f, hf, hproc⟩ := h.of_failed g proper hr
  exact ⟨f, hf, .stopped rfl hproc.strict⟩

/-! ## Strict runs -/

theorem Trail.grounded (t : Trail settings dryRun cur ps rs fs') (proper : Proper settings ps) (g : Grounded cur) :
    Grounded fs' := by
  induction t with
  | nil => exact g
  | cons ht _ ih =>
    have hmid := ht.grounded g (proper _ List.mem_cons_self)
    exact ih (fun q hq => proper q (List.mem_cons_of_mem _ hq)) hmid

/-- a trail without a failure is one of the strict run -/
theorem Trail.strict (t : Trail settings dryRun cur ps rs fs') (h : ∀ r ∈ rs, r.status ≠ .failed) :
    Trail (Generate.strict settings) dryRun cur ps rs fs' := by
  induction t with
  | nil => exact .nil _
  | cons ht _ ih =>
    exact .cons (ht.strict (h _ List.mem_cons_self)) (ih fun r hr => h r (List.mem_cons_of_mem _ hr))

/-- a trail stops at each of its results -/
theorem Trail.turn_at {after : List FileResult} (t : Trail settings dryRun fs ps (rs ++ r :: after) fs') :
    ∃ done p rest mid mid', ps = done ++ p :: rest ∧ done.length = rs.length ∧ Trail settings dryRun fs done rs mid ∧
      Turn settings dryRun mid p (.ok r) mid' := by
  induction rs generalizing fs ps with
  | nil =>
    cases t with
    | cons ht _ => exact ⟨[], _, _, _, _, rfl, rfl, .nil _, ht⟩
  | cons r₀ rs ih =>
    cases t with
    | cons h₀ t =>
      obtain ⟨done, p, rest, mid, mid', rfl, hlen, td, ht⟩ := ih t
      exact ⟨_ :: done, p, rest, mid, mid', rfl, by simp [hlen], .cons h₀ td, ht⟩

/-- **A strict run** is the lax one cut at its first failure. If nothing fails it gives the same report and leaves the
same file system. Otherwise it ends with the failure that the lax one records first, in the file system that the
descriptors before have left. -/
theorem failFast_cuts (wf : fs.WellFormed) (dryRun : Bool) (notices notices' : List Notice) {report : Report}
    (h : ((run settings dryRun none).run ⟨fs, notices⟩).1 = .ok report) :
    ((∀ r ∈ report.files, r.status ≠ .failed) →
      ((run (strict settings) dryRun none).run ⟨fs, notices'⟩).1 = .ok report ∧
      ((run (strict settings) dryRun none).run ⟨fs, notices'⟩).2.fs =
        ((run settings dryRun none).run ⟨fs, notices⟩).2.fs) ∧
    ∀ before bad after, report.files = before ++ bad :: after → (∀ r ∈ before, r.status ≠ .failed) →
      bad.status = .failed →
      ∃ f paths, fs.walkSuffix (Path.ofText settings.sourceDir) settings.descriptorSuffix = .ok paths ∧
        ((run (strict settings) dryRun none).run ⟨fs, notices'⟩).1 = .error (.trouble (.failure f)) ∧
        bad.error = some f.message ∧ bad.exitCode = some f.exitCode ∧
        ((processAll settings dryRun none (paths.take before.length)).run ⟨fs, notices⟩).1 = .ok before ∧
        ((run (strict settings) dryRun none).run ⟨fs, notices'⟩).2.fs =
          ((processAll settings dryRun none (paths.take before.length)).run ⟨fs, notices⟩).2.fs := by
  obtain ⟨paths, rs, hw, t, rfl⟩ := run_ok_iff.1 ⟨h, rfl⟩
  constructor
  · intro hok
    exact (run_ok_iff (s := ⟨fs, notices'⟩)).2 ⟨paths, rs, hw, t.strict hok, rfl⟩
  · intro before bad after hrs hbefore hbad
    obtain rfl : rs = before ++ bad :: after := hrs
    obtain ⟨done, p, rest, mid, mid', rfl, hlen, td, ht⟩ := t.turn_at
    have proper := proper_of_walk wf hw
    have g : Grounded mid := td.grounded (fun q hq => proper q (List.mem_append_left _ hq)) wf.grounded
    obtain ⟨f, rfl, hstop⟩ := ht.stopped_of_failed g (proper p (by simp)) hbad
    have hnone : IsLate none (done.length + 1) := by simp [IsLate]
    have hended := processAll_ended (s := ⟨fs, notices'⟩) hnone (td.strict hbefore) hstop rest
    have hw' : (⟨fs, notices'⟩ : Scene).fs.walkSuffix (Path.ofText (strict settings).sourceDir)
        (strict settings).descriptorSuffix = .ok (done ++ p :: rest) := hw
    obtain ⟨hx, hs⟩ := run_of_walk hw' dryRun none
    obtain ⟨hdone, hdonefs⟩ := (processAll_ok_iff (s := ⟨fs, notices⟩)).2 td
    refine ⟨f, _, hw, ?_, rfl, rfl, ?_, ?_⟩
    · rw [hx, hended.1]
      rfl
    · rw [← hlen, List.take_left]
      exact hdone
    · rw [hs, hended.2, ← hlen, List.take_left, hdonefs]

/-- a run over two descriptors of which the second has no declaration -/
theorem failFast_cuts_second :
    let fs : FileSystem := ⟨[([("d" : Text)], .directory 0o755),
      (["d", "A.json"], .file (Utf8.encodeAll "\x7b\"name\":\"A\",\"methods\":[]\x7d") 0o644),
      (["d", "B.json"], .file (Utf8.encodeAll "\x7b\"name\":\"B\"\x7d") 0o644)], [], 0o022, [], .usual⟩
    let settings : Settings := ⟨"d", ".json", ".d.ts", false⟩
    fs.WellFormed ∧ ∃ report before bad,
      ((run settings false none).run ⟨fs, []⟩).1 = .ok report ∧ report.files = [before, bad] ∧
        before.status ≠ .failed ∧ bad.status = .failed ∧
      ∃ f paths, fs.walkSuffix (Path.ofText settings.sourceDir) settings.descriptorSuffix = .ok paths ∧
        ((run (strict settings) false none).run ⟨fs, []⟩).1 = .error (.trouble (.failure f)) ∧
        bad.error = some f.message ∧ bad.exitCode = some f.exitCode ∧
        ((processAll settings false none (paths.take 1)).run ⟨fs, []⟩).1 = .ok [before] ∧
        ((run (strict settings) false none).run ⟨fs, []⟩).2.fs =
          ((processAll settings false none (paths.take 1)).run ⟨fs, []⟩).2.fs := by
  intro fs settings
  have wf : fs.WellFormed := by decide
  have hstatus : ((run settings false none).run ⟨fs, []⟩).1.toOption.map (fun r => r.files.map FileResult.status) =
      some [.written, .failed] := by decide +kernel
  cases hrun : ((run settings false none).run ⟨fs, []⟩).1 with
  | error e => rw [hrun] at hstatus; cases hstatus
  | ok report =>
    rw [hrun] at hstatus
    have hfiles : report.files.map FileResult.status = [.written, .failed] := Option.some.inj hstatus
    obtain ⟨before, rest, hsplit, hbefore, hrest⟩ := List.map_eq_cons_iff.1 hfiles
    obtain ⟨bad, rfl, hbad⟩ := List.map_eq_singleton_iff.1 hrest
    refine ⟨wf, report, before, bad, rfl, hsplit, by rw [hbefore]; decide, hbad, ?_⟩
    refine (failFast_cuts wf false [] [] hrun).2 [before] bad [] hsplit ?_ hbad
    intro r hr
    rw [List.mem_singleton.1 hr, hbefore]
    decide

end Typings.Generate
