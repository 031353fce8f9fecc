/-
Dry runs: a run that writes nothing, and what it says of the run that writes.

- `dry_run_predicts`: however it ends, a dry run leaves the file system as it is. Over a tidy tree and with suffixes
  that do not overlap, where both runs give a report, they have entries for the same descriptors in the same order.
  What failed in the dry run has the same entry in the other. What was planned is declared at the planned path, unless
  its file cannot be written. A dry run asks for nothing beside the descriptor, so it cannot foresee that.
-/
import Typings.Proofs.Generate.Steady

namespace Typings.Generate

open FileSystem Replace

variable {settings : Settings} {fs fs' cur mid : FileSystem} {root : Path} {l : Location} {paths : List Path}
  {p : Path} {places : Set Location} {r r' : FileResult}

/-! ## Nothing is written -/

theorem Processed.dry {x : Except Trouble FileResult} (h : Processed settings true fs p x fs') : fs' = fs := by
  cases h with
  | undeclared => rfl
  | unnamed => rfl
  | planned => rfl
  | unread => rfl
  | unchanged => rfl
  | written _ _ hd => cases hd
  | refused _ _ hd => cases hd
  | unwritten _ _ hd => cases hd

theorem Turn.dry {x : Except Ending FileResult} (h : Turn settings true fs p x fs') : fs' = fs := by
  cases h with
  | done h => exact h.dry
  | skipped _ h => exact h.dry
  | stopped _ h => exact h.dry
  | crashed h => exact h.dry

/-- a dry turn asks for the declaration and its path only -/
theorem Turn.dry_cases (h : Turn settings true fs p (.ok r) fs') :
    (∃ text o, declarationAt fs p = .ok text ∧ outputPath p settings = .ok o ∧ r = result p o .planned) ∨
      ∃ f, declarationAt fs p = .error (.failure f) ∧ r = failedResult p f := by
  cases h with
  | done h =>
    cases h with
    | planned h ho => exact Or.inl ⟨_, _, h, ho, rfl⟩
    | unchanged _ _ hd => cases hd
    | written _ _ hd => cases hd
  | skipped _ h =>
    cases h with
    | undeclared h => exact Or.inr ⟨_, h, rfl⟩
    | refused _ _ hd => cases hd

/-- every descriptor of a dry run has its turn on the same file system -/
theorem Trail.dry {ps : List Path} {rs : List FileResult} (t : Trail settings true fs ps rs fs') :
    fs' = fs ∧ List.Forall₂ (fun p r => Turn settings true fs p (.ok r) fs) ps rs := by
  induction t with
  | nil => exact ⟨rfl, .nil⟩
  | cons ht _ ih =>
    obtain rfl := ht.dry
    obtain ⟨rfl, hturns⟩ := ih
    exact ⟨rfl, .cons ht hturns⟩

theorem Course.dry {interrupt : Option Nat} {x : Except Ending (List FileResult)}
    (h : Course settings true interrupt fs paths x fs') : fs' = fs := by
  cases h with
  | finished t => exact t.dry.1
  | interrupted _ _ t => exact t.dry.1
  | ended _ t ht =>
    obtain ⟨rfl, -⟩ := t.dry
    exact ht.dry

/-! ## What is foreseen -/

/-- an entry of a dry run, next to the entry of the same descriptor in a run that writes -/
inductive Predicts (r r' : FileResult) : Prop
  | failed (hr : r.status = .failed) (hr' : r' = r)
  | declared (hr : r.status = .planned) (hs : r'.source = r.source) (ho : r'.output = r.output)
      (hr' : r'.status = .written ∨ r'.status = .unchanged)
  | refused (hr : r.status = .planned) (hs : r'.source = r.source) (hr' : r'.status = .failed)
      (he : r'.exitCode = some (Failure.Kind.storage none).exitCode)

/-- **A turn without writing foresees the turn with it**: both find the same declaration and the same path for it. -/
theorem Before.predicts (L : Layout settings fs root l paths) (tidy : Tidy settings fs paths) (sep : Separate settings)
    (hp : p ∈ paths) (h : Before settings fs paths p places cur) (hdry : Turn settings true fs p (.ok r) fs)
    (ht : Turn settings false cur p (.ok r') mid) : Predicts r r' := by
  have hdecl := L.declarationAt_eq tidy sep hp h.agree h.known
  rcases hdry.dry_cases with ⟨text, o, hok, ho, rfl⟩ | ⟨f, herror, rfl⟩
  · rw [← hdecl] at hok
    cases ht with
    | done ht =>
      cases ht with
      | planned _ _ hd => cases hd
      | unchanged _ ho' =>
        cases ho.symm.trans ho'
        exact .declared rfl rfl rfl (Or.inr rfl)
      | written _ ho' =>
        cases ho.symm.trans ho'
        exact .declared rfl rfl rfl (Or.inl rfl)
    | skipped _ ht =>
      cases ht with
      | undeclared herror => cases hok.symm.trans herror
      | refused => exact .refused rfl rfl rfl rfl
  · rw [← hdecl] at herror
    cases ht with
    | done ht =>
      cases ht with
      | planned _ _ hd => cases hd
      | unchanged hok => cases hok.symm.trans herror
      | written hok => cases hok.symm.trans herror
    | skipped _ ht =>
      cases ht with
      | undeclared herror' =>
        cases herror.symm.trans herror'
        exact .failed rfl rfl
      | refused hok => cases hok.symm.trans herror

/-- two lists next to a third one are next to each other -/
theorem forall₂_of_common {α β γ : Type} {R : α → β → Prop} {S : α → γ → Prop} {T : β → γ → Prop} {as : List α}
    {bs : List β} {cs : List γ} (hr : List.Forall₂ R as bs) (hs : List.Forall₂ S as cs)
    (h : ∀ a ∈ as, ∀ b c, R a b → S a c → T b c) : List.Forall₂ T bs cs := by
  induction hr generalizing cs with
  | nil =>
    cases hs
    exact .nil
  | cons hab _ ih =>
    cases hs with
    | cons hac hs =>
      exact .cons (h _ List.mem_cons_self _ _ hab hac) (ih hs fun a ha => h a (List.mem_cons_of_mem _ ha))

/-! ## Whole runs -/

/-- a report comes from the turns of all descriptors, wherever an interrupt was awaited -/
theorem trail_of_report {dryRun : Bool} {interrupt : Option Nat} {s : Scene} {report : Report}
    (h : ((run settings dryRun interrupt).run s).1 = .ok report) :
    ∃ paths rs, s.fs.walkSuffix (Path.ofText settings.sourceDir) settings.descriptorSuffix = .ok paths ∧
      Trail settings dryRun s.fs paths rs ((run settings dryRun interrupt).run s).2.fs ∧
      report = ⟨settings.sourceDir, dryRun, rs⟩ := by
  rcases run_course settings dryRun interrupt s with ⟨t, -, he⟩ | ⟨paths, x, hw, hc, hx⟩
  · rw [he] at h
    cases h
  · rw [hx] at h
    obtain ⟨rs, rfl, rfl⟩ := Except.exists_of_map h
    cases hc with
    | finished t => exact ⟨paths, rs, hw, t, rfl⟩

/-- **A dry run has no effect and predicts the run that writes.** -/
theorem dry_run_predicts (settings : Settings) (fs : FileSystem) (interrupt : Option Nat) (notices : List Notice) :
    ((run settings true interrupt).run ⟨fs, notices⟩).2.fs = fs ∧
      (fs.WellFormed → Separate settings →
        (∀ paths, fs.walkSuffix (Path.ofText settings.sourceDir) settings.descriptorSuffix = .ok paths →
          Tidy settings fs paths) →
        ∀ interrupt' notices' report report', ((run settings true interrupt).run ⟨fs, notices⟩).1 = .ok report →
          ((run settings false interrupt').run ⟨fs, notices'⟩).1 = .ok report' →
          report'.sourceDir = report.sourceDir ∧ List.Forall₂ Predicts report.files report'.files) := by
  constructor
  · rcases run_course settings true interrupt ⟨fs, notices⟩ with ⟨t, -, he⟩ | ⟨paths, x, -, hc, -⟩
    · rw [he]
    · exact hc.dry
  · intro wf sep tidy interrupt' notices' report report' hdry hwet
    obtain ⟨paths, rs, hw, t, rfl⟩ := trail_of_report hdry
    obtain ⟨paths', rs', hw', t', rfl⟩ := trail_of_report hwet
    cases hw.symm.trans hw'
    obtain ⟨root, l, -, -, L⟩ := layout_of_walk wf sep.descriptorSuffix_ne_nil hw
    obtain ⟨-, hturns⟩ := L.trail_of_prefix t' List.prefix_rfl
    refine ⟨rfl, forall₂_of_common t.dry.2 hturns ?_⟩
    rintro p hp r r' hdry ⟨places, cur, mid, hwet⟩
    exact hwet.before.predicts L (tidy paths hw) sep hp hdry hwet.turn

/-- a descriptor to be declared, one without a declaration, and one with a directory where its declaration would be -/
theorem dry_run_predicts_three :
    let fs : FileSystem := ⟨[([("d" : Text)], .directory 0o755),
      (["d", "A.json"], .file (Utf8.encodeAll "\x7b\"name\":\"A\",\"methods\":[]\x7d") 0o644),
      (["d", "B.json"], .file (Utf8.encodeAll "\x7b\"name\":\"B\"\x7d") 0o644),
      (["d", "C.d.ts"], .directory 0o755),
      (["d", "C.json"], .file (Utf8.encodeAll "\x7b\"name\":\"C\",\"methods\":[]\x7d") 0o644)], [], 0o022, [], .usual⟩
    let settings : Settings := ⟨"d", ".json", ".d.ts", false⟩
    ∃ report report', ((run settings true none).run ⟨fs, []⟩).1 = .ok report ∧
      ((run settings false none).run ⟨fs, []⟩).1 = .ok report' ∧
      report.files.map FileResult.status = [.planned, .failed, .planned] ∧
      report'.files.map FileResult.status = [.written, .failed, .failed] ∧
      List.Forall₂ Predicts report.files report'.files := by
  intro fs settings
  have wf : fs.WellFormed := by decide
  have sep : Separate settings := by decide
  have tidy : ∀ paths, fs.walkSuffix (Path.ofText settings.sourceDir) settings.descriptorSuffix = .ok paths →
      Tidy settings fs paths := by
    intro paths hw
    have hp : fs.walkSuffix (Path.ofText settings.sourceDir) settings.descriptorSuffix =
        .ok [⟨"/", ["d", "A.json"]⟩, ⟨"/", ["d", "B.json"]⟩, ⟨"/", ["d", "C.json"]⟩] := by decide +kernel
    obtain rfl := Except.ok.inj (hw.symm.trans hp)
    decide +kernel
  have hdry : ((run settings true none).run ⟨fs, []⟩).1.map (fun report => report.files.map FileResult.status) =
      .ok [.planned, .failed, .planned] := by decide +kernel
  have hwet : ((run settings false none).run ⟨fs, []⟩).1.map (fun report => report.files.map FileResult.status) =
      .ok [.written, .failed, .failed] := by decide +kernel
  obtain ⟨report, hreport, hplanned⟩ := Except.exists_of_map hdry
  obtain ⟨report', hreport', hwritten⟩ := Except.exists_of_map hwet
  have hpredicts := ((dry_run_predicts settings fs none []).2 wf sep tidy none [] report report' hreport hreport').2
  exact ⟨report, report', hreport, hreport', hplanned, hwritten, hpredicts⟩

end Typings.Generate
