/-
Coherence: what a report says agrees with itself, and the exit code with the report.

- `Turn.coherent`, `Trail.coherent`: each entry is one of a declaration or one of a failure, as its status says.
- `count_sum`, `failed_greatest`: each entry is counted once, and the failures are all that failed, in their order.
- `generated_verdict`: a command that neither crashes nor is interrupted ends with the exit code of its verdict;
  `Verdict.unique`: there is only one.
- `report_coherent`: all of this for every run and for the words of a command line.
-/
import Typings.Proofs.Generate.DryRun
import Typings.Proofs.Program.Endings

namespace Typings

namespace Generate

open Failure

variable {settings : Settings} {dryRun : Bool} {fs fs' : FileSystem} {p : Path} {r : FileResult} {paths : List Path}
  {rs : List FileResult}

/-! ## Entries -/

/-- an entry that agrees with the mode of its run and with its status -/
structure Coherent (settings : Settings) (dryRun : Bool) (p : Path) (r : FileResult) : Prop where
  source : r.source = p.toText
  planned : dryRun = true → r.status = .planned ∨ r.status = .failed
  settled : dryRun = false → r.status = .written ∨ r.status = .unchanged ∨ r.status = .failed
  failed : r.status = .failed → r.output = none ∧ ∃ f : Failure, f.OfDescriptor ∧ f.exitCode ∈ descriptorCodes ∧
    r.error = some f.message ∧ r.exitCode = some f.exitCode
  declared : r.status ≠ .failed → r.error = none ∧ r.exitCode = none ∧
    ∃ o, outputPath p settings = .ok o ∧ r.output = some o.toText

theorem coherent_result {o : Path} {status : Status} (ho : outputPath p settings = .ok o)
    (hs : if dryRun then status = .planned else status = .written ∨ status = .unchanged) :
    Coherent settings dryRun p (result p o status) where
  source := rfl
  planned hd := by
    rw [hd] at hs
    exact Or.inl hs
  settled hd := by
    rw [hd] at hs
    exact hs.imp_right Or.inl
  failed hf := by
    have hstatus : status = .failed := hf
    subst hstatus
    cases dryRun <;> simp at hs
  declared _ := ⟨rfl, rfl, o, ho, rfl⟩

theorem coherent_failedResult {f : Failure} (h : f.OfDescriptor) : Coherent settings dryRun p (failedResult p f) where
  source := rfl
  planned _ := Or.inr rfl
  settled _ := Or.inr (Or.inr rfl)
  failed _ := ⟨rfl, f, h, h.code, rfl, rfl⟩
  declared hf := absurd rfl hf

/-- **The entry of a turn** is coherent, -/
theorem Turn.coherent (h : Turn settings dryRun fs p (.ok r) fs') : Coherent settings dryRun p r := by
  cases h with
  | done h =>
    cases h with
    | planned h ho hd => exact coherent_result ho (by simp [hd])
    | unchanged h ho hd hc => exact coherent_result ho (by simp [hd])
    | written h ho hd hc hw => exact coherent_result ho (by simp [hd])
  | skipped _ h => exact coherent_failedResult h.failure

/-- and so are those of all turns, in their order. -/
theorem Trail.coherent (t : Trail settings dryRun fs paths rs fs') :
    List.Forall₂ (Coherent settings dryRun) paths rs := by
  induction t with
  | nil => exact .nil
  | cons ht _ ih => exact .cons ht.coherent ih

theorem Coherent.exitCode {n : Int} (h : Coherent settings dryRun p r) (hn : r.exitCode = some n) :
    n ∈ Failure.descriptorCodes := by
  by_cases hf : r.status = .failed
  · obtain ⟨-, f, -, hcode, -, hexit⟩ := h.failed hf
    rw [← Option.some.inj (hexit.symm.trans hn)]
    exact hcode
  · cases (h.declared hf).2.1.symm.trans hn

theorem Trail.coherent_of_mem (t : Trail settings dryRun fs paths rs fs') (hr : r ∈ rs) :
    ∃ p, Coherent settings dryRun p r := by
  induction t with
  | nil => cases hr
  | cons ht _ ih =>
    rcases List.mem_cons.1 hr with rfl | hr
    · exact ⟨_, ht.coherent⟩
    · exact ih hr

/-- the exit codes in results are those of descriptors -/
theorem Trail.exitCode (t : Trail settings dryRun fs paths rs fs') :
    ∀ r ∈ rs, ∀ n, r.exitCode = some n → n ∈ Failure.descriptorCodes := by
  intro r hr n hn
  obtain ⟨p, hcoherent⟩ := t.coherent_of_mem hr
  exact hcoherent.exitCode hn

/-! ## Reports -/

theorem count_sum (report : Report) : report.count .written + report.count .unchanged + report.count .planned +
    report.count .failed = report.files.length := by
  obtain ⟨sourceDir, dry, files⟩ := report
  simp only [Report.count]
  induction files with
  | nil => rfl
  | cons r files ih =>
    simp only [List.countP_cons, List.length_cons]
    cases r.status <;> simp <;> omega

/-- every list of failures that a report holds in this order is one of those it tells -/
theorem failed_greatest (report : Report) {l : List FileResult} (h : l.Sublist report.files)
    (hl : ∀ r ∈ l, r.status = .failed) : l.Sublist report.failed := by
  have hsame : l.filter (fun f => f.status == .failed) = l := List.filter_eq_self.2 fun r hr => by simp [hl r hr]
  rw [← hsame]
  exact h.filter _

/-- a report that agrees with itself and with the descriptors of its run -/
structure CoherentReport (settings : Settings) (dryRun : Bool) (paths : List Path) (report : Report) : Prop where
  mode : report.dryRun = dryRun
  entries : List.Forall₂ (Coherent settings dryRun) paths report.files
  counts : report.count .written + report.count .unchanged + report.count .planned + report.count .failed =
    paths.length
  failures : report.failed.Sublist report.files ∧ (∀ r ∈ report.failed, r.status = .failed) ∧
    ∀ l : List FileResult, l.Sublist report.files → (∀ r ∈ l, r.status = .failed) → l.Sublist report.failed
  ok : report.ok = true ↔ report.failed = []

theorem Trail.coherentReport (t : Trail settings dryRun fs paths rs fs') :
    CoherentReport settings dryRun paths ⟨settings.sourceDir, dryRun, rs⟩ where
  mode := rfl
  entries := t.coherent
  counts := (count_sum _).trans t.coherent.length_eq.symm
  failures := by
    refine ⟨List.filter_sublist, fun r hr => ?_, fun l h hl => failed_greatest _ h hl⟩
    simpa using (List.mem_filter.1 hr).2
  ok := List.isEmpty_iff

theorem ok_iff (report : Report) : report.ok = true ↔ ∀ r ∈ report.files, r.status ≠ .failed := by
  simp [Report.ok, Report.failed]

/-! ## First failures -/

/-- a trail through a descriptor does not end in its turn -/
theorem Trail.turn_of_append {done rest : List Path} {rs₁ : List FileResult} {mid : FileSystem}
    {x : Except Ending FileResult} {fs₁ : FileSystem} (t : Trail settings dryRun fs (done ++ p :: rest) rs fs')
    (td : Trail settings dryRun fs done rs₁ mid) (ht : Turn settings dryRun mid p x fs₁) : ∃ r, x = .ok r := by
  obtain ⟨_, _, _, -, t1, t2⟩ := t.split
  obtain ⟨-, rfl⟩ := t1.unique td
  cases t2 with
  | cons ht' _ => exact ⟨_, (ht.unique ht').1⟩

/-- a run in which a descriptor's failure ends all, after others that have not failed -/
structure Stop (settings : Settings) (dryRun : Bool) (fs : FileSystem) (paths : List Path) (f : Failure) : Prop where
  strict : settings.failFast = true
  found : ∃ done p rest rs mid fs', paths = done ++ p :: rest ∧ Trail settings dryRun fs done rs mid ∧
    (∀ r ∈ rs, r.status ≠ .failed) ∧ Processed settings dryRun mid p (.error (.failure f)) fs'

/-- where the first failure ends the run, no entry is one of a failure -/
theorem Trail.none_failed (t : Trail settings dryRun fs paths rs fs') (h : settings.failFast = true) :
    ∀ r ∈ rs, r.status ≠ .failed := by
  induction t with
  | nil => simp
  | cons ht _ ih =>
    refine List.forall_mem_cons.2 ⟨fun hr => ?_, ih⟩
    cases ht with
    | done hp => cases hp <;> cases hr
    | skipped hf => cases h.symm.trans hf

theorem Stop.failure {f : Failure} (h : Stop settings dryRun fs paths f) : f.OfDescriptor := by
  obtain ⟨_, _, _, _, _, _, -, -, -, hp⟩ := h.found
  exact hp.failure

theorem Stop.not_trail {f : Failure} (h : Stop settings dryRun fs paths f) :
    ¬ Trail settings dryRun fs paths rs fs' := by
  intro t
  obtain ⟨done, p, rest, rs₁, mid, fs₁, rfl, td, -, hp⟩ := h.found
  obtain ⟨r, hr⟩ := t.turn_of_append td (.stopped h.strict hp)
  cases hr

/-- a trail that goes beyond others does not go through a turn that ends the run -/
theorem Trail.nil_of_ended {done as rest more : List Path} {rs₁ : List FileResult} {mid fs₁ : FileSystem} {e : Ending}
    (t : Trail settings dryRun fs (done ++ as) rs fs') (td : Trail settings dryRun fs done rs₁ mid)
    (ht : Turn settings dryRun mid p (.error e) fs₁) (h : p :: rest = as ++ more) : as = [] := by
  cases as with
  | nil => rfl
  | cons q as =>
    obtain ⟨rfl, -⟩ := List.cons.inj h
    obtain ⟨r, hr⟩ := t.turn_of_append td ht
    cases hr

theorem Stop.unique {f f' : Failure} (h : Stop settings dryRun fs paths f) (h' : Stop settings dryRun fs paths f') :
    f = f' := by
  obtain ⟨done, p, rest, rs, mid, fs₁, rfl, t, -, hp⟩ := h.found
  obtain ⟨done', p', rest', rs', mid', fs₂, hpaths, t', -, hp'⟩ := h'.found
  have hstop := Turn.stopped h.strict hp
  have hstop' := Turn.stopped h'.strict hp'
  have hdone : done = done' := by
    rcases List.append_eq_append_iff.1 hpaths with ⟨as, rfl, has⟩ | ⟨as, rfl, has⟩
    · rw [t'.nil_of_ended t hstop has, List.append_nil]
    · rw [t.nil_of_ended t' hstop' has, List.append_nil]
  subst hdone
  obtain ⟨rfl, -⟩ := List.cons.inj (List.append_cancel_left hpaths)
  obtain ⟨-, rfl⟩ := t.unique t'
  obtain ⟨hf, -⟩ := hstop.unique hstop'
  simpa using hf

end Generate

namespace Program

open CommandLine FileSystem Generate

variable {s : Surroundings} {interrupt : Option Nat} {words : List Text} {options : Console.Options}
  {overrides : Settings.Overrides} {dryRun : Bool} {c : Console} {code : Int}

/-! ## Exit codes -/

/-- a descriptor that has been planned, written or left unchanged -/
def Settled (r : FileResult) : Prop := r.status = .planned ∨ r.status = .written ∨ r.status = .unchanged

theorem settled_iff (r : FileResult) : Settled r ↔ r.status ≠ .failed := by
  unfold Settled
  cases r.status <;> simp

/-- the exit code that descriptors deserve: that of the first failure if it ends the run, 6 if some of them have failed,
and 0 if all of them have been settled -/
inductive Deserved (settings : Settings) (dryRun : Bool) (fs : FileSystem) (paths : List Path) : Int → Prop
  | stopped {f : Failure} (h : Stop settings dryRun fs paths f) : Deserved settings dryRun fs paths f.exitCode
  | partly {rs : List FileResult} {fs' : FileSystem} (t : Trail settings dryRun fs paths rs fs')
      (h : ∃ r ∈ rs, r.status = .failed) : Deserved settings dryRun fs paths 6
  | all {rs : List FileResult} {fs' : FileSystem} (t : Trail settings dryRun fs paths rs fs')
      (h : ∀ r ∈ rs, Settled r) : Deserved settings dryRun fs paths 0

/-- the exit code of a generation: 1 without settings, 5 without a walk, and otherwise what the descriptors deserve -/
inductive Verdict (fs : FileSystem) (env : Environment) (overrides : Settings.Overrides) (dryRun : Bool) : Int → Prop
  | unsettled {f : Failure} (h : Settings.resolve fs env overrides = .error (.failure f)) :
      Verdict fs env overrides dryRun 1
  | unwalked {settings : Settings} {f : Failure} (hs : Settings.resolve fs env overrides = .ok settings)
      (hw : fs.walkSuffix (Path.ofText settings.sourceDir) settings.descriptorSuffix = .error (.failure f)) :
      Verdict fs env overrides dryRun 5
  | walked {settings : Settings} {paths : List Path} {code : Int}
      (hs : Settings.resolve fs env overrides = .ok settings)
      (hw : fs.walkSuffix (Path.ofText settings.sourceDir) settings.descriptorSuffix = .ok paths)
      (h : Deserved settings dryRun fs paths code) : Verdict fs env overrides dryRun code

/-- failures and settled descriptors exclude each other -/
theorem not_settled {rs : List FileResult} (h : ∃ r ∈ rs, r.status = .failed) : ¬ ∀ r ∈ rs, Settled r := by
  obtain ⟨r, hr, hfailed⟩ := h
  intro hall
  exact (settled_iff r).1 (hall r hr) hfailed

theorem Deserved.unique {settings : Settings} {fs : FileSystem} {paths : List Path} {code' : Int}
    (h : Deserved settings dryRun fs paths code) (h' : Deserved settings dryRun fs paths code') : code = code' := by
  cases h with
  | stopped h =>
    cases h' with
    | stopped h' => rw [h.unique h']
    | partly t' => exact absurd t' h.not_trail
    | all t' => exact absurd t' h.not_trail
  | partly t h =>
    cases h' with
    | stopped h' => exact absurd t h'.not_trail
    | partly => rfl
    | all t' h' =>
      obtain ⟨rfl, -⟩ := t.unique t'
      exact absurd h' (not_settled h)
  | all t h =>
    cases h' with
    | stopped h' => exact absurd t h'.not_trail
    | partly t' h' =>
      obtain ⟨rfl, -⟩ := t.unique t'
      exact absurd h (not_settled h')
    | all => rfl

theorem Verdict.unique {fs : FileSystem} {env : Environment} {code' : Int}
    (h : Verdict fs env overrides dryRun code) (h' : Verdict fs env overrides dryRun code') : code = code' := by
  cases h with
  | unsettled h =>
    cases h' with
    | unsettled => rfl
    | unwalked hs' => cases h.symm.trans hs'
    | walked hs' => cases h.symm.trans hs'
  | unwalked hs hw =>
    cases h' with
    | unsettled h' => cases hs.symm.trans h'
    | unwalked => rfl
    | walked hs' hw' =>
      cases hs.symm.trans hs'
      cases hw.symm.trans hw'
  | walked hs hw h =>
    cases h' with
    | unsettled h' => cases hs.symm.trans h'
    | unwalked hs' hw' =>
      cases hs.symm.trans hs'
      cases hw.symm.trans hw'
    | walked hs' hw' h' =>
      cases hs.symm.trans hs'
      cases hw.symm.trans hw'
      exact h.unique h'

/-- all descriptors of a generation have been walked and settled -/
def AllSettled (fs : FileSystem) (env : Environment) (overrides : Settings.Overrides) (dryRun : Bool) : Prop :=
  ∃ settings paths rs fs', Settings.resolve fs env overrides = .ok settings ∧
    fs.walkSuffix (Path.ofText settings.sourceDir) settings.descriptorSuffix = .ok paths ∧
    Trail settings dryRun fs paths rs fs' ∧ ∀ r ∈ rs, Settled r

theorem verdict_zero_iff {fs : FileSystem} {env : Environment} :
    Verdict fs env overrides dryRun 0 ↔ AllSettled fs env overrides dryRun := by
  constructor
  · intro h
    generalize hcode : (0 : Int) = code at h
    cases h with
    | unsettled => cases hcode
    | unwalked => cases hcode
    | walked hs hw h =>
      cases h with
      | stopped h =>
        have hnone : (0 : Int) ∉ Failure.descriptorCodes := by decide
        rw [hcode] at hnone
        exact absurd h.failure.code hnone
      | partly => cases hcode
      | all t h => exact ⟨_, _, _, _, hs, hw, t, h⟩
  · rintro ⟨settings, paths, rs, fs', hs, hw, t, h⟩
    exact .walked hs hw (.all t h)

/-- what descriptors deserve where a run through them ends without a crash or an interrupt -/
theorem deserved_of_course {settings : Settings} {fs fs' : FileSystem} {paths : List Path} {f : Failure}
    (h : Course settings dryRun interrupt fs paths (.error (.trouble (.failure f))) fs') :
    Deserved settings dryRun fs paths f.exitCode := by
  cases h with
  | ended hp t ht =>
    cases ht with
    | stopped hf hproc => exact .stopped ⟨hf, _, _, _, _, _, _, hp, t, t.none_failed hf, hproc⟩

theorem deserved_of_trail {settings : Settings} {fs fs' : FileSystem} {paths : List Path} {rs : List FileResult}
    (t : Trail settings dryRun fs paths rs fs') :
    Deserved settings dryRun fs paths (if (⟨settings.sourceDir, dryRun, rs⟩ : Report).ok then success
      else partlyFailed) := by
  have hiff := ok_iff ⟨settings.sourceDir, dryRun, rs⟩
  by_cases hok : (⟨settings.sourceDir, dryRun, rs⟩ : Report).ok = true
  · rw [if_pos hok]
    exact .all t fun r hr => (settled_iff r).2 (hiff.1 hok r hr)
  · rw [if_neg hok]
    rw [hiff] at hok
    push Not at hok
    exact .partly t hok

/-- **A command ends with the exit code of its verdict**, unless it crashes or is interrupted. -/
theorem generated_verdict {x : Except Ending (Text × Int)} (h : Generated s.fs s.env overrides dryRun interrupt x)
    (hcrash : ∀ e, x ≠ .error (.trouble (.crash e))) (hinterrupt : x ≠ .error .interrupt) :
    Verdict s.fs s.env overrides dryRun (codeOf x) := by
  cases h with
  | @unsettled t h =>
    cases t with
    | crash e => exact absurd rfl (hcrash e)
    | failure f =>
      have hcode : codeOf (.error (.trouble (.failure f))) = 1 := by
        obtain ⟨message, rfl⟩ := Settings.resolve_failure h
        rfl
      rw [hcode]
      exact .unsettled h
  | @ended settings e hs h =>
    match e with
    | .interrupt => exact absurd rfl hinterrupt
    | .trouble (.crash e) => exact absurd rfl (hcrash e)
    | .trouble (.failure f) =>
      rcases run_course settings dryRun interrupt (opening s.fs settings) with ⟨t, hw, hrun⟩ | ⟨paths, r, hw, hc, hr⟩
      · rw [hrun] at h
        cases h
        have hcode : codeOf (.error (.trouble (.failure f))) = 5 := by
          obtain ⟨path, message, rfl⟩ := walkSuffix_failure hw
          rfl
        rw [hcode]
        exact .unwalked hs hw
      · rw [h] at hr
        cases r with
        | ok rs => cases hr
        | error e =>
          cases hr
          exact .walked hs hw (deserved_of_course hc)
  | unshown => exact absurd rfl (hcrash _)
  | @shown settings report out hs h =>
    obtain ⟨paths, rs, hw, t, rfl⟩ := trail_of_report h
    exact .walked hs hw (deserved_of_trail t)

/-- **Reports and exit codes are coherent.** The report of a run agrees with its mode, its descriptors and itself. A
command that generates declarations, and neither crashes nor is interrupted, ends with the exit code of its verdict; it
is 0 exactly when all descriptors that have been walked have been planned, written or left unchanged. -/
theorem report_coherent :
    (∀ (settings : Settings) (dryRun : Bool) (interrupt : Option Nat) (scene : Scene) (report : Report),
      ((Generate.run settings dryRun interrupt).run scene).1 = .ok report →
      ∃ paths, scene.fs.walkSuffix (Path.ofText settings.sourceDir) settings.descriptorSuffix = .ok paths ∧
        CoherentReport settings dryRun paths report) ∧
    ∀ (s : Surroundings) (interrupt : Option Nat) (words : List Text) (options : Console.Options)
      (overrides : Settings.Overrides) (dryRun : Bool) (c : Console),
      Request.ofWords words = .ok (.generate options overrides dryRun) →
      Console.of s.env s.watched options = .ok c →
      (∀ e, ((generate s.env c overrides dryRun interrupt).run ⟨s.fs, []⟩).1 ≠ .error (.trouble (.crash e))) →
      ((generate s.env c overrides dryRun interrupt).run ⟨s.fs, []⟩).1 ≠ .error .interrupt →
      ∃ code, (run s interrupt words).exit = .ok code ∧
        (∀ code', Verdict s.fs s.env overrides dryRun code' ↔ code' = code) ∧
        (code = 0 ↔ AllSettled s.fs s.env overrides dryRun) := by
  constructor
  · intro settings dryRun interrupt scene report h
    obtain ⟨paths, rs, hw, t, rfl⟩ := trail_of_report h
    exact ⟨paths, hw, t.coherentReport⟩
  · intro s interrupt words options overrides dryRun c hwords hconsole hcrash hinterrupt
    have hv := generated_verdict (generate_generated s c overrides dryRun interrupt) hcrash hinterrupt
    have honly : ∀ code', Verdict s.fs s.env overrides dryRun code' ↔
        code' = codeOf ((generate s.env c overrides dryRun interrupt).run ⟨s.fs, []⟩).1 := by
      intro code'
      constructor
      · exact fun hv' => hv'.unique hv
      · rintro rfl
        exact hv
    refine ⟨_, ?_, honly, ?_⟩
    · rw [run_eq_conclude hwords hconsole]
      exact conclude_exit fun e he => absurd he (hcrash e)
    · rw [← verdict_zero_iff, honly, eq_comm]

/-- a tree with a descriptor that has no declaration: a lax generation goes on to the end, a strict one stops there -/
theorem report_coherent_two :
    let s : Surroundings := ⟨⟨[([("d" : Text)], .directory 0o755),
      (["d", "A.json"], .file (Utf8.encodeAll "\x7b\"name\":\"A\",\"methods\":[]\x7d") 0o644),
      (["d", "B.json"], .file (Utf8.encodeAll "\x7b\"name\":\"B\"\x7d") 0o644)], [], 0o022, [], .usual⟩, [],
      "Linux", false, "20240101_000000"⟩
    let general : Console.Options := ⟨none, false, false, false⟩
    let lax : Settings.Overrides := ⟨some (.text "d"), none, none, none⟩
    let strict : Settings.Overrides := ⟨some (.text "d"), none, none, some (.bool true)⟩
    let settings : Settings := ⟨"d", ".json", ".d.ts", false⟩
    (∃ report paths, ((Generate.run settings false none).run ⟨s.fs, []⟩).1 = .ok report ∧
      CoherentReport settings false paths report ∧ report.files.map FileResult.exitCode = [none, some 4]) ∧
    Request.ofWords ["generate", "d"] = .ok (.generate general lax false) ∧
    Request.ofWords ["generate", "d", "--fail-fast"] = .ok (.generate general strict false) ∧
    (∃ c, Console.of s.env s.watched general = .ok c) ∧
    (run s none ["generate", "d"]).exit = .ok 6 ∧ Verdict s.fs s.env lax false 6 ∧
    (run s none ["generate", "d", "--fail-fast"]).exit = .ok 4 ∧ Verdict s.fs s.env strict false 4 ∧
    ¬ AllSettled s.fs s.env lax false := by
  intro s general lax strict settings
  obtain ⟨hreports, hcodes⟩ := report_coherent
  obtain ⟨c, hc⟩ : ∃ c, Console.of s.env s.watched general = .ok c := ⟨_, rfl⟩
  have hlax : Request.ofWords ["generate", "d"] = .ok (.generate general lax false) := rfl
  have hstrict : Request.ofWords ["generate", "d", "--fail-fast"] = .ok (.generate general strict false) := rfl
  -- the codes of a crash and of an interrupt are others
  have hcode : ∀ words overrides code, Request.ofWords words = .ok (.generate general overrides false) →
      codeOf ((generate s.env c overrides false none).run ⟨s.fs, []⟩).1 = code → code ≠ crashed → code ≠ interrupted →
      (run s none words).exit = .ok code →
      Verdict s.fs s.env overrides false code ∧ (code = 0 ↔ AllSettled s.fs s.env overrides false) := by
    intro words overrides code hwords hends hcrash hinterrupt hexit
    obtain ⟨code', hexit', hverdict, hzero⟩ := hcodes s none words general overrides false c hwords hc
      (fun e he => hcrash (by rw [← hends, he, codeOf])) (fun hi => hinterrupt (by rw [← hends, hi, codeOf]))
    obtain rfl : code = code' := Except.ok.inj (hexit.symm.trans hexit')
    exact ⟨(hverdict code).2 rfl, hzero⟩
  have hends : codeOf ((generate s.env c lax false none).run ⟨s.fs, []⟩).1 = 6 ∧
      codeOf ((generate s.env c strict false none).run ⟨s.fs, []⟩).1 = 4 := by
    obtain rfl := Except.ok.inj hc
    exact ⟨by decide +kernel, by decide +kernel⟩
  have hsix : (run s none ["generate", "d"]).exit = .ok 6 := by decide +kernel
  have hfour : (run s none ["generate", "d", "--fail-fast"]).exit = .ok 4 := by decide +kernel
  obtain ⟨hv6, hzero⟩ := hcode _ lax 6 hlax hends.1 (by decide) (by decide) hsix
  obtain ⟨hv4, -⟩ := hcode _ strict 4 hstrict hends.2 (by decide) (by decide) hfour
  refine ⟨?_, hlax, hstrict, ⟨c, hc⟩, hsix, hv6, hfour, hv4, fun h => absurd (hzero.2 h) (by decide)⟩
  have hresults : ((Generate.run settings false none).run ⟨s.fs, []⟩).1.toOption.map
      (fun r => r.files.map FileResult.exitCode) = some [none, some 4] := by decide +kernel
  cases hrun : ((Generate.run settings false none).run ⟨s.fs, []⟩).1 with
  | error e =>
    rw [hrun] at hresults
    cases hresults
  | ok report =>
    rw [hrun] at hresults
    obtain ⟨paths, -, hcoherent⟩ := hreports settings false none ⟨s.fs, []⟩ report hrun
    exact ⟨report, paths, rfl, hcoherent, Option.some.inj hresults⟩

end Program
end Typings
