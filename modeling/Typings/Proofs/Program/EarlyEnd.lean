/-
Early ends of the program.

An interrupt comes before a descriptor, a crash while one is processed. Either ends the program in the file system that
the descriptors before have left.
- `run_late`: an interrupt behind the last descriptor has no effect.
- `run_interrupted`: an interrupt leaves what the descriptors before have written, no data, and its own exit code.
- `run_crashed`: a crash leaves the same, and a log.
- `run_ends_early`: all of this for the words of a command line.
-/
import Typings.Program
import Typings.Proofs.FileSystem.Making
import Typings.Proofs.Generate.Kept

namespace Typings

theorem Settings.checkSuffixes_of_resolve {fs : FileSystem} {env : Environment} {overrides : Settings.Overrides}
    {settings : Settings} (h : Settings.resolve fs env overrides = .ok settings) :
    Settings.checkSuffixes settings = .ok settings := by
  have accepted : ∀ s : Settings, Settings.checkSuffixes s = .ok settings → s = settings := by
    intro s hs
    unfold Settings.checkSuffixes Settings.failure at hs
    split_ifs at hs
    exact Except.ok.inj hs
  unfold Settings.resolve at h
  cases hd : fs.workingDirectory with
  | error c => simp [hd, bind, Except.bind, Except.mapError] at h
  | ok directory =>
    cases hp : Settings.projectEntries fs directory with
    | error t => simp [hd, hp, bind, Except.bind, Except.mapError] at h
    | ok project =>
      simp only [hd, hp, bind, Except.bind, Except.mapError] at h
      split at h
      · cases h
      · rename_i s _
        rw [← accepted s h]
        rw [← accepted s h] at h
        exact h

namespace Program

open CommandLine FileSystem Generate

variable {s : Surroundings} {words : List Text} {options : Console.Options} {overrides : Settings.Overrides}
  {dryRun : Bool} {c : Console} {settings : Settings} {interrupt : Option Nat} {paths done rest : List Path}
  {p : Path} {rs : List FileResult} {reached : FileSystem}

/-! ## From the command line to the run -/

/-- the scene in which a run begins: all that has been told is under which directory declarations are generated -/
def opening (fs : FileSystem) (settings : Settings) : Scene :=
  ⟨fs, [.info ("Generating declarations under " ++ settings.sourceDir)]⟩

/-- what ends a run ends the command -/
theorem generate_of_error (hs : Settings.resolve s.fs s.env overrides = .ok settings) {e : Ending} {scene : Scene}
    (h : (Generate.run settings dryRun interrupt).run (opening s.fs settings) = (.error e, scene)) :
    (generate s.env c overrides dryRun interrupt).run ⟨s.fs, []⟩ = (.error e, scene) := by
  unfold opening at h
  simp only [generate, Running.run_bind, Running.run_get, Running.run_lift, hs, Except.mapError, Running.run_tell,
    List.nil_append, h]

/-- what ends the way through the descriptors ends the command, in the file system that is reached -/
theorem generate_ended (hs : Settings.resolve s.fs s.env overrides = .ok settings)
    (hw : (opening s.fs settings).fs.walkSuffix (Path.ofText settings.sourceDir) settings.descriptorSuffix = .ok paths)
    {e : Ending}
    (h : ((processAll settings dryRun interrupt paths).run (opening s.fs settings)).1 = .error e ∧
      ((processAll settings dryRun interrupt paths).run (opening s.fs settings)).2.fs = reached) (c : Console) :
    ∃ notices, (generate s.env c overrides dryRun interrupt).run ⟨s.fs, []⟩ = (.error e, ⟨reached, notices⟩) := by
  obtain ⟨hx, hscene⟩ := run_of_walk hw dryRun interrupt
  obtain ⟨hended, rfl⟩ := h
  refine ⟨_, generate_of_error hs (Prod.ext ?_ hscene)⟩
  rw [hx, hended]
  rfl

/-- a command depends on its run only -/
theorem generate_congr (hs : Settings.resolve s.fs s.env overrides = .ok settings) {interrupt' : Option Nat}
    (h : (Generate.run settings dryRun interrupt).run (opening s.fs settings) =
      (Generate.run settings dryRun interrupt').run (opening s.fs settings)) :
    (generate s.env c overrides dryRun interrupt).run ⟨s.fs, []⟩ =
      (generate s.env c overrides dryRun interrupt').run ⟨s.fs, []⟩ := by
  unfold opening at h
  simp only [generate, Running.run_bind, Running.run_get, Running.run_lift, hs, Except.mapError, Running.run_tell,
    List.nil_append, h]

section

variable (hwords : Request.ofWords words = .ok (.generate options overrides dryRun))
  (hconsole : Console.of s.env s.watched options = .ok c)
  (hsettings : Settings.resolve s.fs s.env overrides = .ok settings)

include hwords hconsole

theorem run_eq_conclude (interrupt : Option Nat) :
    run s interrupt words = conclude s c (generate s.env c overrides dryRun interrupt) := by
  simp only [run, hwords, onConsole, hconsole]

include hsettings

/-- **An interrupt behind the last descriptor** has no effect. -/
theorem run_late (hi : ∀ paths,
    s.fs.walkSuffix (Path.ofText settings.sourceDir) settings.descriptorSuffix = .ok paths →
      IsLate interrupt paths.length) : run s interrupt words = run s none words := by
  have hrun : (Generate.run settings dryRun interrupt).run (opening s.fs settings) =
      (Generate.run settings dryRun none).run (opening s.fs settings) := run_of_late hi
  rw [run_eq_conclude hwords hconsole, run_eq_conclude hwords hconsole]
  simp only [conclude, generate_congr hsettings hrun]

variable (hw : s.fs.walkSuffix (Path.ofText settings.sourceDir) settings.descriptorSuffix = .ok (done ++ p :: rest))
  (t : Trail settings dryRun s.fs done rs reached)

include hw t

/-- **An interrupt** leaves what the descriptors before it have written, and no data. -/
theorem run_interrupted : (run s (some (done.length + 1)) words).fs = reached ∧
    (run s (some (done.length + 1)) words).out = [] ∧
    (run s (some (done.length + 1)) words).exit = .ok interrupted := by
  have hends := processAll_interrupted (s := opening s.fs settings) t p rest
  obtain ⟨notices, hgen⟩ := generate_ended hsettings hw hends c
  rw [run_eq_conclude hwords hconsole]
  simp only [conclude, hgen, and_self]

/-- **A crash** leaves what the descriptors before it have written, and its log. -/
theorem run_crashed {e : Crash} (ht : Turn settings dryRun reached p (.error (.trouble (.crash e))) reached)
    (hi : IsLate interrupt (done.length + 1)) :
    (run s interrupt words).fs = (CrashLog.write reached s.system s.env s.moment e).1 := by
  have hends := processAll_ended (s := opening s.fs settings) hi t ht rest
  obtain ⟨notices, hgen⟩ := generate_ended hsettings hw hends c
  rw [run_eq_conclude hwords hconsole]
  simp only [conclude, hgen]
  rcases CrashLog.write reached s.system s.env s.moment e with ⟨fs', x⟩
  cases x with
  | error e' => rfl
  | ok log => rfl

end

/-- **The program ends early** with what the first descriptors have written, and no temporary file: only the
declarations that their results tell of differ from the first file system. It does so where an interrupt comes before
the next descriptor, with its own exit code and no data, and where that descriptor crashes, but for the log. An
interrupt behind the last descriptor has no effect. -/
theorem run_ends_early (hwords : Request.ofWords words = .ok (.generate options overrides dryRun))
    (hconsole : Console.of s.env s.watched options = .ok c)
    (hsettings : Settings.resolve s.fs s.env overrides = .ok settings) (wf : s.fs.WellFormed) :
    (∀ n, (∀ paths, s.fs.walkSuffix (Path.ofText settings.sourceDir) settings.descriptorSuffix = .ok paths →
      paths.length < n) → run s (some n) words = run s none words) ∧
    ∀ done p rest rs,
      s.fs.walkSuffix (Path.ofText settings.sourceDir) settings.descriptorSuffix = .ok (done ++ p :: rest) →
      ((processAll settings dryRun none done).run (opening s.fs settings)).1 = .ok rs →
      let reached := ((processAll settings dryRun none done).run (opening s.fs settings)).2
      (∀ k, k ∉ writtenPlaces settings s.fs (done.zip rs) → reached.fs.find? k = s.fs.find? k) ∧
      ((run s (some (done.length + 1)) words).fs = reached.fs ∧ (run s (some (done.length + 1)) words).out = [] ∧
        (run s (some (done.length + 1)) words).exit = .ok 130) ∧
      ∀ e interrupt, ((attempt settings dryRun p).run reached).1 = .error (.trouble (.crash e)) →
        IsLate interrupt (done.length + 1) →
        (run s interrupt words).fs = (CrashLog.write reached.fs s.system s.env s.moment e).1 ∧
          CrashLog.Logged s.system s.env s.moment e reached.fs (run s interrupt words).fs := by
  constructor
  · intro n hn
    refine run_late hwords hconsole hsettings fun paths hw => ?_
    intro m hm
    rw [← Option.some.inj hm]
    exact Or.inr (hn paths hw)
  · intro done p rest rs hw hok reached
    have t : Trail settings dryRun s.fs done rs reached.fs :=
      (processAll_ok_iff (s := opening s.fs settings)).1 ⟨hok, rfl⟩
    obtain ⟨root, l, -, -, L⟩ := layout_of_walk wf
      (descriptorSuffix_ne_nil (Settings.checkSuffixes_of_resolve hsettings)) hw
    obtain ⟨hagree, -⟩ := L.trail_of_prefix t (List.prefix_append done _)
    refine ⟨hagree.same, run_interrupted hwords hconsole hsettings hw t, fun e interrupt he hi => ?_⟩
    have ht := attempt_turn settings dryRun p reached
    rw [he] at ht
    rw [L.turn_ended hagree (by simp) ht] at ht
    have hfs := run_crashed hwords hconsole hsettings hw t ht hi
    refine ⟨hfs, ?_⟩
    rw [hfs]
    exact CrashLog.write_logged _ _ _ _ _

/-- a command over two descriptors of which the second crashes, and the same with an interrupt before it -/
theorem run_ends_early_second :
    let s : Surroundings := ⟨⟨[([("d" : Text)], .directory 0o755),
      (["d", "A.json"], .file (Utf8.encodeAll "\x7b\"name\":\"A\",\"methods\":[]\x7d") 0o644),
      (["d", "B.json"], .file (Utf8.encodeAll "\x7b\"name\":\"\\ud800\",\"methods\":[]\x7d") 0o644),
      (["home"], .directory 0o755)], [], 0o022, [], .usual⟩, [("HOME", "/home")], "Linux", false, "20240101_000000"⟩
    let words : List Text := ["generate", "d"]
    let overrides : Settings.Overrides := ⟨some (.text "d"), none, none, none⟩
    let settings : Settings := ⟨"d", ".json", ".d.ts", false⟩
    let a : Path := ⟨"/", ["d", "A.json"]⟩
    let b : Path := ⟨"/", ["d", "B.json"]⟩
    let written : FileResult := ⟨a.toText, some "/d/A.d.ts", .written, none, none⟩
    let crash : Crash := .encoding ⟨0xD800, 14, 1⟩
    let reached : Scene := ((processAll settings false none [a]).run (opening s.fs settings)).2
    Request.ofWords words = .ok (.generate ⟨none, false, false, false⟩ overrides false) ∧
      (∃ c, Console.of s.env s.watched ⟨none, false, false, false⟩ = .ok c) ∧
      Settings.resolve s.fs s.env overrides = .ok settings ∧ s.fs.WellFormed ∧
      s.fs.walkSuffix (Path.ofText settings.sourceDir) settings.descriptorSuffix = .ok [a, b] ∧
      ((processAll settings false none [a]).run (opening s.fs settings)).1 = .ok [written] ∧
      ((attempt settings false b).run reached).1 = .error (.trouble (.crash crash)) ∧
      run s (some 3) words = run s none words ∧
      (∀ k, k ∉ writtenPlaces settings s.fs [(a, written)] → reached.fs.find? k = s.fs.find? k) ∧
      ((run s (some 2) words).fs = reached.fs ∧ (run s (some 2) words).out = [] ∧
        (run s (some 2) words).exit = .ok 130) ∧
      (run s none words).fs = (CrashLog.write reached.fs s.system s.env s.moment crash).1 ∧
      CrashLog.Logged s.system s.env s.moment crash reached.fs (run s none words).fs := by
  intro s words overrides settings a b written crash reached
  have hwords : Request.ofWords words = .ok (.generate ⟨none, false, false, false⟩ overrides false) := rfl
  obtain ⟨c, hconsole⟩ : ∃ c, Console.of s.env s.watched ⟨none, false, false, false⟩ = .ok c := ⟨_, rfl⟩
  have hsettings : Settings.resolve s.fs s.env overrides = .ok settings := by decide +kernel
  have wf : s.fs.WellFormed := by decide
  have hw : s.fs.walkSuffix (Path.ofText settings.sourceDir) settings.descriptorSuffix = .ok [a, b] := by
    decide +kernel
  have hok : ((processAll settings false none [a]).run (opening s.fs settings)).1 = .ok [written] := by
    decide +kernel
  have hcrash : ((attempt settings false b).run reached).1 = .error (.trouble (.crash crash)) := by decide +kernel
  obtain ⟨hlate, hearly⟩ := run_ends_early hwords hconsole hsettings wf
  obtain ⟨honly, hinterrupted, hcrashed⟩ := hearly [a] b [] [written] hw hok
  refine ⟨hwords, ⟨c, hconsole⟩, hsettings, wf, hw, hok, hcrash, hlate 3 ?_, honly, hinterrupted, ?_⟩
  · intro paths hpaths
    obtain rfl := Except.ok.inj (hw.symm.trans hpaths)
    decide
  · exact hcrashed crash none hcrash (by simp [IsLate])

end Program
end Typings
