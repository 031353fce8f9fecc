/-
Endings: how the program ends, and with which exit code.

Each way in which a command can end has an exit code. What has none is an ending in which the handling of a crash
crashes itself.
- `of_eq_error`: when a console cannot be made; `write_refused_iff`: when the log of a crash cannot be written.
- `generate_generated`, `render_cases`: how the commands end; `Asked.code`: their exit codes.
- `run_exit`: the program ends with an exit code unless its console cannot be made or such a log cannot be written; the
  code is that of the way in which its command ended.
- `crashes_escape`: the price. There are surroundings in which a crash gets out.
-/
import Typings.Program
import Typings.Proofs.Generate.Failures
import Typings.Proofs.Program.EarlyEnd

namespace Typings

/-! ## Consoles that cannot be made -/

namespace Console

variable {env : Environment} {name : Text}

/-- a variable whose value has digits only and is no number for all that -/
def Unreadable (env : Environment) (name : Text) : Prop :=
  ∃ t, Environment.get? env name = some t ∧ t ≠ [] ∧ t.all CodePoint.isAnyDigit = true ∧
    ∃ fault, Numeral.integer 10 t = .error fault

theorem dimension?_eq_error : (∃ c, dimension? env name = .error c) ↔ Unreadable env name := by
  unfold dimension? Unreadable
  cases hget : Environment.get? env name with
  | none => simp
  | some t =>
    by_cases hdigits : t = [] ∨ ¬ t.all CodePoint.isAnyDigit = true
    · have hskip : (t.isEmpty || !t.all CodePoint.isAnyDigit) = true := by simpa using hdigits
      simp only [hskip, if_true, reduceCtorEq, exists_false, false_iff, Option.some.injEq]
      rintro ⟨_, rfl, hne, hall, -⟩
      exact hdigits.elim hne fun h => h hall
    · have hskip : (t.isEmpty || !t.all CodePoint.isAnyDigit) = false := by simpa using hdigits
      obtain ⟨hne, hall⟩ := not_or.1 hdigits
      simp only [hskip, Bool.false_eq_true, if_false, Option.some.injEq]
      cases hnumber : Numeral.integer 10 t with
      | ok n => simp [hnumber]
      | error fault => simp_all

/-- a console cannot be made where a dimension cannot be read -/
theorem of_eq_error {watched : Bool} {o : Options} :
    (∃ c, Console.of env watched o = .error c) ↔ Unreadable env "COLUMNS" ∨ Unreadable env "LINES" := by
  simp only [← dimension?_eq_error, Console.of, bind, Except.bind]
  cases hcolumns : dimension? env "COLUMNS" with
  | error c => simp
  | ok columns =>
    cases hlines : dimension? env "LINES" with
    | error c => simp
    | ok lines => simp [pure, Except.pure]

end Console

/-! ## Logs that cannot be written -/

namespace CrashLog

open FileSystem

variable {fs : FileSystem} {system moment : Text} {env : Environment} {c : Crash}

/-- why the log of a crash cannot be written: there is no data directory, it or the one of the logs cannot be made, the
last line has no octets, or the file cannot be written -/
inductive Refused (fs : FileSystem) (system : Text) (env : Environment) (moment : Text) (c : Crash) : Prop
  | homeless {e : Crash} (h : DataDirectory.path system env = .error e)
  | data {p : Path} {e : Crash} (hp : DataDirectory.path system env = .ok p) (h : (fs.makeDirectory p).2 = .error e)
  | logs {p : Path} {e : Crash} (hp : DataDirectory.path system env = .ok p) (hd : (fs.makeDirectory p).2 = .ok ())
      (h : ((fs.makeDirectory p).1.makeDirectory (pathIn p moment).parent).2 = .error e)
  | line {fault : Utf8.Unencodable} (h : Utf8.encode (lastLine c ++ "\n") = .error fault)
  | file {p : Path} {fs₁ fs₂ : FileSystem} {octets : Bytes} {e : Crash} (hp : DataDirectory.path system env = .ok p)
      (hd : fs.makeDirectory p = (fs₁, .ok ())) (hl : fs₁.makeDirectory (pathIn p moment).parent = (fs₂, .ok ()))
      (ht : Utf8.encode (lastLine c ++ "\n") = .ok octets)
      (h : fs₂.writeFile (pathIn p moment).toText octets = .error e)

/-- **A log cannot be written** for one of these reasons. -/
theorem write_refused_iff :
    (∃ e, (write fs system env moment c).2 = .error e) ↔ Refused fs system env moment c := by
  unfold write DataDirectory.provide
  cases hp : DataDirectory.path system env with
  | error e => exact ⟨fun _ => .homeless hp, fun _ => ⟨e, rfl⟩⟩
  | ok p =>
    dsimp only
    rcases hd : fs.makeDirectory p with ⟨fs₁, x⟩
    cases x with
    | error e => exact ⟨fun _ => .data hp (by rw [hd]), fun _ => ⟨e, rfl⟩⟩
    | ok u =>
      dsimp only
      rcases hl : fs₁.makeDirectory (pathIn p moment).parent with ⟨fs₂, y⟩
      cases y with
      | error e => exact ⟨fun _ => .logs hp (by rw [hd]) (by rw [hd, hl]), fun _ => ⟨e, rfl⟩⟩
      | ok v =>
        dsimp only
        cases ht : Utf8.encode (lastLine c ++ "\n") with
        | error fault => exact ⟨fun _ => .line ht, fun _ => ⟨_, rfl⟩⟩
        | ok octets =>
          dsimp only
          cases hw : fs₂.writeFile (pathIn p moment).toText octets with
          | error e => exact ⟨fun _ => .file hp hd hl ht hw, fun _ => ⟨e, rfl⟩⟩
          | ok fs₃ =>
            constructor
            · rintro ⟨e, he⟩
              cases he
            · intro h
              exfalso
              cases h with
              | homeless h => cases hp.symm.trans h
              | data hp' h =>
                cases hp.symm.trans hp'
                rw [hd] at h
                cases h
              | logs hp' _ h =>
                cases hp.symm.trans hp'
                rw [hd, hl] at h
                cases h
              | line h => cases ht.symm.trans h
              | file hp' hd' hl' ht' h =>
                cases hp.symm.trans hp'
                cases hd.symm.trans hd'
                cases hl.symm.trans hl'
                cases ht.symm.trans ht'
                cases hw.symm.trans h

end CrashLog

namespace Program

open CommandLine FileSystem Generate

variable {s : Surroundings} {interrupt : Option Nat} {words : List Text} {options : Console.Options}
  {overrides : Settings.Overrides} {dryRun : Bool} {c : Console} {fs : FileSystem} {env : Environment}
  {x : Except Ending (Text × Int)} {command : Console → Running (Text × Int)}

/-! ## Commands -/

/-- the exit codes of the program -/
def exitCodes : List Int := [0, 1, 2, 3, 4, 5, 6, 130]

/-- the exit code of each way in which a command can end -/
def codeOf : Except Ending (Text × Int) → Int
  | .ok (_, code) => code
  | .error (.trouble (.failure f)) => f.exitCode
  | .error (.trouble (.crash _)) => crashed
  | .error .interrupt => interrupted

/-- how the command that generates declarations ends: without settings, with its run, without a view of its report, or
with one -/
inductive Generated (fs : FileSystem) (env : Environment) (overrides : Settings.Overrides) (dryRun : Bool)
    (interrupt : Option Nat) : Except Ending (Text × Int) → Prop
  | unsettled {t : Trouble} (h : Settings.resolve fs env overrides = .error t) :
      Generated fs env overrides dryRun interrupt (.error (.trouble t))
  | ended {settings : Settings} {e : Ending} (hs : Settings.resolve fs env overrides = .ok settings)
      (h : ((Generate.run settings dryRun interrupt).run (opening fs settings)).1 = .error e) :
      Generated fs env overrides dryRun interrupt (.error e)
  | unshown {settings : Settings} {report : Report} {e : Crash}
      (hs : Settings.resolve fs env overrides = .ok settings)
      (h : ((Generate.run settings dryRun interrupt).run (opening fs settings)).1 = .ok report) :
      Generated fs env overrides dryRun interrupt (.error (.trouble (.crash e)))
  | shown {settings : Settings} {report : Report} {out : Text} (hs : Settings.resolve fs env overrides = .ok settings)
      (h : ((Generate.run settings dryRun interrupt).run (opening fs settings)).1 = .ok report) :
      Generated fs env overrides dryRun interrupt (.ok (out, if report.ok then success else partlyFailed))

/-- a report is shown, unless it has no view -/
theorem generate_of_report {settings : Settings} {report : Report} {scene : Scene}
    (hs : Settings.resolve s.fs s.env overrides = .ok settings)
    (h : (Generate.run settings dryRun interrupt).run (opening s.fs settings) = (.ok report, scene)) :
    ((generate s.env c overrides dryRun interrupt).run ⟨s.fs, []⟩).1 = match report.data c with
      | .ok out => .ok (out, if report.ok then success else partlyFailed)
      | .error e => .error (.trouble (.crash e)) := by
  unfold opening at h
  simp only [generate, Running.run_bind, Running.run_get, Running.run_lift, hs, Except.mapError, Running.run_tell,
    List.nil_append, h]
  cases report.data c with
  | error e => rfl
  | ok out => cases report.ok <;> rfl

theorem generate_generated (s : Surroundings) (c : Console) (overrides : Settings.Overrides) (dryRun : Bool)
    (interrupt : Option Nat) : Generated s.fs s.env overrides dryRun interrupt
      ((generate s.env c overrides dryRun interrupt).run ⟨s.fs, []⟩).1 := by
  cases hs : Settings.resolve s.fs s.env overrides with
  | error t =>
    simp only [generate, Running.run_bind, Running.run_get, Running.run_lift, hs, Except.mapError]
    exact .unsettled hs
  | ok settings =>
    rcases hrun : (Generate.run settings dryRun interrupt).run (opening s.fs settings) with ⟨y, scene⟩
    have hfirst := congrArg Prod.fst hrun
    cases y with
    | error e =>
      rw [generate_of_error hs hrun]
      exact .ended hs hfirst
    | ok report =>
      rw [generate_of_report hs hrun]
      cases report.data c with
      | error e => exact .unshown hs hfirst
      | ok out => exact .shown hs hfirst

theorem render_cases (path : Text) (scene : Scene) :
    (∃ t, declarationAt scene.fs (Path.ofText path) = .error t ∧
        (render path).run scene = (.error (.trouble t), scene)) ∨
      ∃ text, declarationAt scene.fs (Path.ofText path) = .ok text ∧
        (render path).run scene = (match Console.data text with
          | .ok out => .ok (out, success)
          | .error e => .error (.trouble (.crash e)), scene) := by
  simp only [render, Running.run_bind, Running.run_get, Running.run_lift]
  cases declarationAt scene.fs (Path.ofText path) with
  | error t => exact Or.inl ⟨t, rfl, rfl⟩
  | ok text =>
    refine Or.inr ⟨text, rfl, ?_⟩
    simp only [Except.mapError]
    cases Console.data text <;> rfl

/-- the command that words ask for, and what they ask of its console -/
inductive Asked (s : Surroundings) (interrupt : Option Nat) (words : List Text) :
    Console.Options → (Console → Running (Text × Int)) → Prop
  | generate {options : Console.Options} {overrides : Settings.Overrides} {dryRun : Bool}
      (h : Request.ofWords words = .ok (.generate options overrides dryRun)) :
      Asked s interrupt words options fun c => generate s.env c overrides dryRun interrupt
  | render {options : Console.Options} {path : Text} (h : Request.ofWords words = .ok (.render options path)) :
      Asked s interrupt words options fun _ => render path

theorem OfDescriptor.exitCode {f : Failure} (h : f.OfDescriptor) : f.exitCode ∈ exitCodes := by
  have hcodes : ∀ code ∈ Failure.descriptorCodes, code ∈ exitCodes := by decide
  exact hcodes _ h.code

/-- **A command ends** with one of the exit codes of the program. -/
theorem Asked.code (h : Asked s interrupt words options command) (c : Console) :
    codeOf ((command c).run ⟨s.fs, []⟩).1 ∈ exitCodes := by
  have hcrash : ∀ e, codeOf (.error (.trouble (.crash e))) ∈ exitCodes := fun _ => (by decide : crashed ∈ exitCodes)
  cases h with
  | @generate overrides dryRun h =>
    have hends := generate_generated s c overrides dryRun interrupt
    generalize ((Program.generate s.env c overrides dryRun interrupt).run ⟨s.fs, []⟩).1 = x at hends ⊢
    cases hends with
    | @unsettled t h =>
      cases t with
      | crash e => exact hcrash e
      | failure f =>
        obtain ⟨message, rfl⟩ := Settings.resolve_failure h
        exact (by decide : (1 : Int) ∈ exitCodes)
    | @ended settings e hs h =>
      match e, h with
      | .interrupt, _ => exact (by decide : interrupted ∈ exitCodes)
      | .trouble (.crash e), _ => exact hcrash e
      | .trouble (.failure f), h => exact OfDescriptor.exitCode (Generate.run_failure h)
    | unshown => exact hcrash _
    | @shown settings report out hs h =>
      change (if report.ok then success else partlyFailed) ∈ exitCodes
      split_ifs <;> decide
  | @render path h =>
    rcases render_cases path ⟨s.fs, []⟩ with ⟨t, ht, hrun⟩ | ⟨text, -, hrun⟩
    · rw [hrun]
      cases t with
      | crash e => exact hcrash e
      | failure f => exact OfDescriptor.exitCode (declarationAt_failure ht)
    · rw [hrun]
      cases Console.data text with
      | error e => exact hcrash e
      | ok out => exact (by decide : success ∈ exitCodes)

/-! ## The program -/

theorem conclude_ok {command : Running (Text × Int)} {scene : Scene} {out : Text} {code : Int}
    (h : command.run ⟨s.fs, []⟩ = (.ok (out, code), scene)) :
    conclude s c command = ⟨scene.fs, out, c.notices scene.notices, .ok code⟩ := by
  simp only [conclude, h]

theorem conclude_failure {command : Running (Text × Int)} {scene : Scene} {f : Failure}
    (h : command.run ⟨s.fs, []⟩ = (.error (.trouble (.failure f)), scene)) :
    conclude s c command =
      ⟨scene.fs, [], c.notices scene.notices ++ c.notice (.error f.message), .ok f.exitCode⟩ := by
  simp only [conclude, h]

/-- what a command leaves where no log is needed, or one can be written -/
theorem conclude_exit {command : Running (Text × Int)}
    (hlog : ∀ e, (command.run ⟨s.fs, []⟩).1 = .error (.trouble (.crash e)) →
      ¬ CrashLog.Refused (command.run ⟨s.fs, []⟩).2.fs s.system s.env s.moment e) :
    (conclude s c command).exit = .ok (codeOf (command.run ⟨s.fs, []⟩).1) := by
  rcases hx : command.run ⟨s.fs, []⟩ with ⟨x, scene⟩
  rw [hx] at hlog
  match x, hx, hlog with
  | .ok (out, code), hx, _ => simp only [conclude, hx, codeOf]
  | .error (.trouble (.failure f)), hx, _ => simp only [conclude, hx, codeOf]
  | .error .interrupt, hx, _ => simp only [conclude, hx, codeOf]
  | .error (.trouble (.crash e)), hx, hlog =>
    have hwritten := hlog e rfl
    rw [← CrashLog.write_refused_iff] at hwritten
    rcases hw : CrashLog.write scene.fs s.system s.env s.moment e with ⟨fs', y⟩
    cases y with
    | ok log => simp only [conclude, hx, hw, codeOf]
    | error e' => exact absurd ⟨e', by rw [hw]⟩ hwritten

/-- and where it cannot -/
theorem conclude_refused {command : Running (Text × Int)} {e : Crash} {scene : Scene}
    (hx : command.run ⟨s.fs, []⟩ = (.error (.trouble (.crash e)), scene))
    (hlog : CrashLog.Refused scene.fs s.system s.env s.moment e) : ∃ e', (conclude s c command).exit = .error e' := by
  obtain ⟨e', he'⟩ := CrashLog.write_refused_iff.2 hlog
  rcases hw : CrashLog.write scene.fs s.system s.env s.moment e with ⟨fs', y⟩
  rw [hw] at he'
  obtain rfl : y = .error e' := he'
  exact ⟨e', by simp only [conclude, hx, hw]⟩

theorem onConsole_of_error {e : Crash} (h : Console.of s.env s.watched options = .error e) (use : Console → Outcome) :
    ∃ e', (onConsole s options use).exit = .error e' := by
  simp only [onConsole, h]
  rcases CrashLog.write s.fs s.system s.env s.moment e with ⟨fs', y⟩
  cases y with
  | ok log => exact ⟨e, rfl⟩
  | error e' => exact ⟨e', rfl⟩

/-- what lets a crash out: a console that cannot be made, unless only the version is asked for, and the crash of a
command whose log cannot be written -/
inductive Escapes (s : Surroundings) (interrupt : Option Nat) (words : List Text) : Prop
  | console (hw : Request.ofWords words ≠ .ok (.inquiry .version))
      (h : Console.Unreadable s.env "COLUMNS" ∨ Console.Unreadable s.env "LINES")
  | log {options : Console.Options} {command : Console → Running (Text × Int)} {c : Console} {e : Crash}
      {scene : Scene} (ha : Asked s interrupt words options command) (hc : Console.of s.env s.watched options = .ok c)
      (hx : (command c).run ⟨s.fs, []⟩ = (.error (.trouble (.crash e)), scene))
      (h : CrashLog.Refused scene.fs s.system s.env s.moment e)

theorem run_of_asked (h : Asked s interrupt words options command) (hc : Console.of s.env s.watched options = .ok c) :
    run s interrupt words = conclude s c (command c) := by
  cases h with
  | generate h => simp only [run, h, onConsole, hc]
  | render h => simp only [run, h, onConsole, hc]

theorem run_of_escapes (h : Escapes s interrupt words) : ∃ e, (run s interrupt words).exit = .error e := by
  cases h with
  | console hw h =>
    have hmade : ∀ options, ∃ e, Console.of s.env s.watched options = .error e := fun _ => Console.of_eq_error.2 h
    unfold run
    split
    · exact onConsole_of_error (hmade _).choose_spec _
    · rename_i hversion
      exact absurd hversion hw
    · exact onConsole_of_error (hmade _).choose_spec _
    · exact onConsole_of_error (hmade _).choose_spec _
    · exact onConsole_of_error (hmade _).choose_spec _
  | log ha hc hx h =>
    rw [run_of_asked ha hc]
    exact conclude_refused hx h

/-- a console is made where no crash escapes -/
theorem console_of_not_escapes (h : ¬ Escapes s interrupt words)
    (hw : Request.ofWords words ≠ .ok (.inquiry .version)) (options : Console.Options) :
    ∃ c, Console.of s.env s.watched options = .ok c := by
  cases hc : Console.of s.env s.watched options with
  | ok c => exact ⟨c, rfl⟩
  | error e => exact absurd (.console hw (Console.of_eq_error.1 ⟨e, hc⟩)) h

/-- and the command has its exit code -/
theorem run_exit_of_asked (h : ¬ Escapes s interrupt words) (ha : Asked s interrupt words options command)
    (hc : Console.of s.env s.watched options = .ok c) :
    (run s interrupt words).exit = .ok (codeOf ((command c).run ⟨s.fs, []⟩).1) := by
  rw [run_of_asked ha hc]
  refine conclude_exit fun e he hlog => h ?_
  exact .log ha hc (Prod.ext he rfl) hlog

theorem run_of_not_escapes (h : ¬ Escapes s interrupt words) :
    ∃ code ∈ exitCodes, (run s interrupt words).exit = .ok code := by
  have hasked : ∀ {options command}, Request.ofWords words ≠ .ok (.inquiry .version) →
      Asked s interrupt words options command → ∃ code ∈ exitCodes, (run s interrupt words).exit = .ok code := by
    intro options command hw ha
    obtain ⟨c, hc⟩ := console_of_not_escapes h hw options
    exact ⟨_, ha.code c, run_exit_of_asked h ha hc⟩
  cases hr : Request.ofWords words with
  | error m =>
    obtain ⟨c, hc⟩ := console_of_not_escapes h (by simp [hr]) {}
    exact ⟨misused, by decide, by simp only [run, hr, onConsole, hc]⟩
  | ok request =>
    cases request with
    | inquiry i =>
      cases i with
      | version => exact ⟨success, by decide, by simp only [run, hr]⟩
      | help =>
        obtain ⟨c, hc⟩ := console_of_not_escapes h (by simp [hr]) {}
        exact ⟨success, by decide, by simp only [run, hr, onConsole, hc]⟩
    | generate options overrides dryRun => exact hasked (by simp [hr]) (.generate hr)
    | render options path => exact hasked (by simp [hr]) (.render hr)

/-- **How the program ends.** A crash gets out exactly where a console cannot be made or the log of a crash cannot be
written. Everywhere else the program ends with one of its exit codes, and with the one that belongs to the way in which
its command ended: that of a failure is its own, that of an interrupt 130, and that of any crash 1. Interrupts come
before a descriptor only, the one that `interrupt` counts to: there is none in the walk, within a descriptor, or in the
command that renders. -/
theorem run_exit (s : Surroundings) (interrupt : Option Nat) (words : List Text) :
    ((∃ e, (run s interrupt words).exit = .error e) ↔ Escapes s interrupt words) ∧
    (¬ Escapes s interrupt words → (∃ code ∈ exitCodes, (run s interrupt words).exit = .ok code) ∧
      ∀ options command c, Asked s interrupt words options command → Console.of s.env s.watched options = .ok c →
        (∀ f, ((command c).run ⟨s.fs, []⟩).1 = .error (.trouble (.failure f)) →
          (run s interrupt words).exit = .ok f.exitCode) ∧
        (((command c).run ⟨s.fs, []⟩).1 = .error .interrupt → (run s interrupt words).exit = .ok 130) ∧
        (∀ e, ((command c).run ⟨s.fs, []⟩).1 = .error (.trouble (.crash e)) →
          (run s interrupt words).exit = .ok 1)) := by
  refine ⟨⟨fun ⟨e, he⟩ => ?_, run_of_escapes⟩, fun h => ⟨run_of_not_escapes h, fun options command c ha hc => ?_⟩⟩
  · by_contra h
    obtain ⟨code, -, hcode⟩ := run_of_not_escapes h
    rw [he] at hcode
    cases hcode
  · have hexit := run_exit_of_asked h ha hc
    refine ⟨fun f hf => ?_, fun hi => ?_, fun e he => ?_⟩
    · rw [hexit, hf]
      rfl
    · rw [hexit, hi]
      rfl
    · rw [hexit, he]
      rfl

/-- a declaration that has no octets, with a log; one whose descriptor is not there; and an interrupt -/
theorem run_exit_three :
    let s : Surroundings := ⟨⟨[([("A.json" : Text)],
      .file (Utf8.encodeAll "\x7b\"name\":\"\\ud800\",\"methods\":[]\x7d") 0o644), (["home"], .directory 0o755)],
      [], 0o022, [], .usual⟩, [("HOME", "/home")], "Linux", false, "20240101_000000"⟩
    let general : Console.Options := ⟨none, false, false, false⟩
    ∃ c, Console.of s.env s.watched general = .ok c ∧
      ¬ Escapes s none ["render", "A.json"] ∧ ¬ Escapes s none ["render", "B.json"] ∧
      ¬ Escapes s (some 1) ["generate", "/"] ∧
      (∃ e, ((render "A.json").run ⟨s.fs, []⟩).1 = .error (.trouble (.crash e))) ∧
      (run s none ["render", "A.json"]).exit = .ok 1 ∧
      (∃ f, ((render "B.json").run ⟨s.fs, []⟩).1 = .error (.trouble (.failure f)) ∧ f.exitCode = 5 ∧
        (run s none ["render", "B.json"]).exit = .ok f.exitCode) ∧
      (run s (some 1) ["generate", "/"]).exit = .ok 130 := by
  intro s general
  obtain ⟨c, hc⟩ : ∃ c, Console.of s.env s.watched general = .ok c := ⟨_, rfl⟩
  have hends : ∀ interrupt words code, (run s interrupt words).exit = .ok code → ¬ Escapes s interrupt words := by
    intro interrupt words code hcode h
    obtain ⟨e, he⟩ := (run_exit s interrupt words).1.2 h
    rw [hcode] at he
    cases he
  have hlogged : ¬ Escapes s none ["render", "A.json"] := hends _ _ 1 (by decide +kernel)
  have hmissing : ¬ Escapes s none ["render", "B.json"] := hends _ _ 5 (by decide +kernel)
  have hinterrupted : ¬ Escapes s (some 1) ["generate", "/"] := hends _ _ 130 (by decide +kernel)
  have hcrash : ((render "A.json").run ⟨s.fs, []⟩).1 = .error (.trouble (.crash (.encoding ⟨0xD800, 14, 1⟩))) := by
    decide +kernel
  have hfails : ((render "B.json").run ⟨s.fs, []⟩).1 = .error (.trouble (.failure (Failure.of
      (.storage (some ⟨[], ["B.json"]⟩))
      "Failed to read descriptor B.json: [Errno 2] No such file or directory: 'B.json'"))) := by
    decide +kernel
  have hstops : ((generate s.env c ⟨some (.text "/"), none, none, none⟩ false (some 1)).run ⟨s.fs, []⟩).1 =
      .error .interrupt := by
    obtain rfl := Except.ok.inj hc
    decide +kernel
  refine ⟨c, hc, hlogged, hmissing, hinterrupted, ⟨_, hcrash⟩, ?_, ⟨_, hfails, rfl, ?_⟩, ?_⟩
  · exact (((run_exit s none ["render", "A.json"]).2 hlogged).2 general _ c (.render rfl) hc).2.2 _ hcrash
  · exact (((run_exit s none ["render", "B.json"]).2 hmissing).2 general _ c (.render rfl) hc).1 _ hfails
  · exact (((run_exit s (some 1) ["generate", "/"]).2 hinterrupted).2 general _ c (.generate rfl) hc).2.1 hstops

/-- **A log that is refused** lets a crash out: the directory of the user's data should be below a file. So does a
number of columns that is a digit and no number, for a command that would not crash at all. -/
theorem crashes_escape :
    let fs : FileSystem := ⟨[([("A.json" : Text)],
      .file (Utf8.encodeAll "\x7b\"name\":\"\\ud800\",\"methods\":[]\x7d") 0o644), (["B.json"],
      .file (Utf8.encodeAll "\x7b\"name\":\"B\",\"methods\":[]\x7d") 0o644), (["data"], .file [] 0o644),
      (["home"], .directory 0o755)], [], 0o022, [], .usual⟩
    let s (env : Environment) : Surroundings := ⟨fs, env, "Linux", false, "20240101_000000"⟩
    fs.WellFormed ∧
      (run (s [("HOME", "/home"), ("XDG_DATA_HOME", "/data")]) none ["render", "A.json"]).exit =
        .error (.os (OsCause.notDirectory.on "/data/dtsgen")) ∧
      (run (s [("HOME", "/home"), ("COLUMNS", "²")]) none ["render", "B.json"]).exit =
        .error (.value "invalid literal for int() with base 10: '²'") := by
  refine ⟨by decide, by decide +kernel, by decide +kernel⟩

end Program
end Typings
