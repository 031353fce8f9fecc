/-
Leaks: what a run that passes over failures does not survive.

A failure is recorded and the run goes on, but a crash ends it. `Leaks` lists the ways in which a descriptor crashes.
- `Document.Breaks`: the texts on which the readers crash. Those of YAML have a fault in a token, or a scalar with a text
  that its tag refuses.
- `leaks_iff`: a descriptor crashes in these ways only.
- `nothing_lost_iff`: a run gives a report with an entry for each descriptor exactly when none of them leaks at its
  turn.
- `surrogate_lost`: a name with a surrogate in one descriptor ends the whole run.
-/
import Typings.Proofs.Generate.Kept
import Typings.Proofs.Yaml.Refusal

namespace Typings

/-! ## Crashes of single operations -/

namespace Document

/-- a text is read as YAML: it is said to be that, or it is said to be nothing and is no JSON -/
def AsYaml (form : Form) (text : Text) : Prop :=
  form = .yaml ∨ form = .either ∧ ∃ e, Json.read text = .error (.malformed e)

/-- the texts on which reading crashes -/
inductive Breaks (form : Form) (text : Text) : Prop
  /-- JSON with a number of too many digits -/
  | digits {count : Nat} (hf : form ≠ .yaml) (h : Json.read text = .error (.digits count)) : Breaks form text
  /-- YAML with a version of too many digits, or with an escape that numbers no code point -/
  | token {fault : Yaml.TokenFault} (hf : AsYaml form text)
      (h : Yaml.read text = .error (.fault (.token fault))) : Breaks form text
  /-- YAML with a scalar that has no value by its tag -/
  | scalar {tag t : Text} {fault : Yaml.Scalar.Fault} {hs : Yaml.Scalar.spelled tag t = .error fault}
      (hf : AsYaml form text) (hr : Yaml.Scalar.Refused tag t)
      (h : Yaml.read text = .error (.fault (.scalar (.spelling tag t fault hs)))) : Breaks form text
  /-- YAML with a mapping that has the tag of a moment -/
  | mapping (hf : AsYaml form text) (h : Yaml.read text = .error (.fault (.scalar .mapping))) : Breaks form text

theorem Breaks.fault {form : Form} {text : Text} {fault : Yaml.Fault} (hf : AsYaml form text)
    (h : Yaml.read text = .error (.fault fault)) : Breaks form text := by
  cases fault with
  | token f => exact .token hf h
  | scalar r =>
    cases r with
    | spelling tag t f hs => exact .scalar hf ((Yaml.Scalar.spelled_refuses_iff tag t).1 ⟨f, hs⟩) h
    | mapping => exact .mapping hf h

theorem readYaml_crash_iff {path : Option Path} {j : Option Json.Error} {text : Text} :
    (∃ c, readYaml path j text = .error (.crash c)) ↔ ∃ fault, Yaml.read text = .error (.fault fault) := by
  unfold readYaml
  cases h : Yaml.read text with
  | ok v => simp
  | error e => cases e <;> simp [malformed]

/-- a text that is read as YAML crashes if the reader of YAML finds a fault -/
theorem AsYaml.crash {form : Form} {text : Text} {fault : Yaml.Fault} (hf : AsYaml form text)
    (h : Yaml.read text = .error (.fault fault)) (path : Option Path) :
    ∃ c, read form path text = .error (.crash c) := by
  unfold read
  rcases hf with hf | ⟨hf, e, hj⟩
  · rw [if_pos hf]
    exact readYaml_crash_iff.2 ⟨_, h⟩
  · rw [if_neg (by simp [hf]), hj]
    simp only [hf, reduceCtorEq, if_false]
    exact readYaml_crash_iff.2 ⟨_, h⟩

theorem read_crash_iff {form : Form} (path : Option Path) {text : Text} :
    (∃ c, read form path text = .error (.crash c)) ↔ Breaks form text := by
  constructor
  · intro h
    unfold read at h
    by_cases hf : form = .yaml
    · rw [if_pos hf] at h
      obtain ⟨fault, hfault⟩ := readYaml_crash_iff.1 h
      exact .fault (Or.inl hf) hfault
    · rw [if_neg hf] at h
      cases hj : Json.read text with
      | ok v => simp [hj] at h
      | error e =>
        cases e with
        | digits count => exact .digits hf hj
        | malformed e =>
          simp only [hj] at h
          split_ifs at h with hjson
          · simp [malformed] at h
          · obtain ⟨fault, hfault⟩ := readYaml_crash_iff.1 h
            have he : form = .either := by cases form <;> simp_all
            exact .fault (Or.inr ⟨he, e, hj⟩) hfault
  · intro h
    cases h with
    | digits hf h =>
      rw [read, if_neg hf, h]
      exact ⟨_, rfl⟩
    | token hf h => exact hf.crash h path
    | scalar hf _ h => exact hf.crash h path
    | mapping hf h => exact hf.crash h path

end Document

namespace FileSystem

variable {fs : FileSystem}

theorem entryAt_eq_error {t : Text} {c : Crash} (h : fs.entryAt t = .error c) :
    (∃ e, c = .os e) ∨ unusable t = some c := by
  unfold entryAt locate at h
  cases hu : unusable t with
  | some d =>
    simp only [hu, bind, Except.bind, Except.error.injEq] at h
    exact Or.inr (by rw [h])
  | none =>
    cases hr : fs.resolve .target t with
    | error cause =>
      simp only [hu, hr, bind, Except.bind, Except.error.injEq] at h
      exact Or.inl ⟨_, h.symm⟩
    | ok r =>
      cases r with
      | entry l e => simp [hu, hr, bind, Except.bind, pure, Except.pure] at h
      | absent l =>
        simp only [hu, hr, bind, Except.bind, throw, throwThe, MonadExceptOf.throw, Except.error.injEq] at h
        exact Or.inl ⟨_, h.symm⟩

theorem readFile_eq_error {t : Text} {c : Crash} (h : fs.readFile t = .error c) :
    (∃ e, c = .os e) ∨ unusable t = some c := by
  unfold readFile at h
  cases he : fs.entryAt t with
  | error d =>
    simp only [he, bind, Except.bind, Except.error.injEq] at h
    exact h ▸ entryAt_eq_error he
  | ok found =>
    obtain ⟨l, e⟩ := found
    cases e with
    | directory mode =>
      simp only [he, bind, Except.bind, refuse, Except.error.injEq] at h
      exact Or.inl ⟨_, h.symm⟩
    | _ => simp [he, bind, Except.bind, pure, Except.pure] at h

end FileSystem

namespace Generate

open FileSystem Replace

variable {settings : Settings} {fs : FileSystem} {root : Path} {l : Location} {paths : List Path} {dryRun : Bool}

/-- the ways in which loading a descriptor crashes -/
inductive Unloadable (fs : FileSystem) (p : Path) : Prop
  /-- its path cannot be used -/
  | path {c : Crash} (h : unusable p.toText = some c) : Unloadable fs p
  /-- its text crashes the reader -/
  | document {content : Bytes} {raw : Text} (h : fs.readFile p.toText = .ok content)
      (hd : Utf8.decode content = .ok raw) (hb : (Text.unifyNewlines raw).isBlank = false)
      (hr : Document.Breaks (Document.Form.ofPath p) (Text.unifyNewlines raw)) : Unloadable fs p

theorem load_crash_iff {p : Path} : (∃ c, Descriptor.load fs p = .error (.crash c)) ↔ Unloadable fs p := by
  unfold Descriptor.load
  constructor
  · rintro ⟨c, h⟩
    cases hread : fs.readFile p.toText with
    | error d =>
      rcases readFile_eq_error hread with ⟨e, rfl⟩ | hu
      · simp [hread] at h
      · exact .path hu
    | ok content =>
      simp only [hread, Descriptor.ofBytes] at h
      split at h
      · cases h
      · rename_i raw hd
        split_ifs at h with hb
        · cases h
        split at h
        · rename_i t ht
          cases h
          exact .document hread hd (by simpa using hb) ((Document.read_crash_iff (some p)).1 ⟨c, ht⟩)
        · split at h <;> cases h
  · intro h
    cases h with
    | path hu =>
      rw [readFile_unusable hu]
      have hos := unusable_ne_os hu
      rename_i c
      cases c with
      | os e => exact absurd rfl (hos e)
      | _ => exact ⟨_, rfl⟩
    | document h hd hb hr =>
      obtain ⟨c, hc⟩ := (Document.read_crash_iff (some p)).2 hr
      exact ⟨c, by simp [h, Descriptor.ofBytes, hd, hb, hc]⟩

theorem declarationAt_crash_iff {p : Path} :
    (∃ c, declarationAt fs p = .error (.crash c)) ↔ Unloadable fs p := by
  rw [← load_crash_iff]
  unfold declarationAt
  cases h : Descriptor.load fs p with
  | error t => simp [bind, Except.bind]
  | ok d =>
    cases hd : d.declarationFile <;>
      simp [bind, Except.bind, pure, Except.pure, hd, throw, throwThe, MonadExceptOf.throw]

/-! ## Leaks -/

/-- the ways in which a descriptor crashes -/
inductive Leaks (settings : Settings) (dryRun : Bool) (fs : FileSystem) (p : Path) : Prop
  /-- it cannot be loaded -/
  | descriptor (h : Unloadable fs p) : Leaks settings dryRun fs p
  /-- the suffixes make no name of its own -/
  | name {text : Text} {fault : Path.NameFault} (h : declarationAt fs p = .ok text)
      (ho : outputPath p settings = .error fault) : Leaks settings dryRun fs p
  /-- the path of its declaration cannot be used -/
  | output {text : Text} {o : Path} {c : Crash} (h : declarationAt fs p = .ok text)
      (ho : outputPath p settings = .ok o) (hd : dryRun = false) (hu : unusable o.toText = some c) :
      Leaks settings dryRun fs p
  /-- its declaration has no octets, and there is a file to compare it with or to write it to -/
  | text {text : Text} {o : Path} {fault : Utf8.Unencodable} (h : declarationAt fs p = .ok text)
      (ho : outputPath p settings = .ok o) (hd : dryRun = false) (hu : unusable o.toText = none)
      (ht : Utf8.encode text = .error fault)
      (hw : (∃ content, fs.readFile o.toText = .ok content) ∨ ∃ k, IsTemporary fs o k) : Leaks settings dryRun fs p
  /-- the path of its temporary file cannot be used -/
  | temporary {text t : Text} {o : Path} {c : Crash} (h : declarationAt fs p = .ok text)
      (ho : outputPath p settings = .ok o) (hd : dryRun = false) (hc : hasContent fs o text = .ok false)
      (ht : temporaryPath fs o = .ok t) (hu : unusable t = some c) : Leaks settings dryRun fs p

/-- **A descriptor crashes** in these ways only. -/
theorem leaks_iff (g : Grounded fs) {p : Path} (hp : ∀ o, outputPath p settings = .ok o → o.IsProper) :
    Leaks settings dryRun fs p ↔ ∃ c fs', Processed settings dryRun fs p (.error (.crash c)) fs' := by
  constructor
  · intro h
    cases h with
    | descriptor h =>
      obtain ⟨c, hc⟩ := declarationAt_crash_iff.2 h
      exact ⟨c, fs, .undeclared hc⟩
    | name h ho => exact ⟨_, fs, .unnamed h ho⟩
    | @output text o c h ho hd hu => exact ⟨c, fs, .unread h ho hd (hasContent_of_unusable hu text)⟩
    | @text text o fault h ho hd hu ht hw =>
      cases hread : fs.readFile o.toText with
      | ok content => exact ⟨.encoding fault, fs, .unread h ho hd (by simp [hasContent, hread, ht])⟩
      | error d =>
        have hos : ∃ e, d = .os e := (readFile_eq_error hread).resolve_right (by simp [hu])
        obtain ⟨e, rfl⟩ := hos
        have hc : hasContent fs o text = .ok false := by simp [hasContent, hread]
        obtain ⟨k, hk⟩ := hw.resolve_left (by simp [hread])
        obtain ⟨hr, hne⟩ := (replace_crash_iff g (hp o ho)).2 (.content hk ht)
        exact ⟨_, _, .unwritten h ho hd hc hr hne⟩
    | @temporary text t o c h ho hd hc ht hu =>
      have hb : Breaks fs o text c := .temporary ht hu
      obtain ⟨hr, hne⟩ := (replace_crash_iff g (hp o ho)).2 hb
      exact ⟨_, _, .unwritten h ho hd hc hr hne⟩
  · rintro ⟨c, fs', h⟩
    cases h with
    | undeclared h => exact .descriptor (declarationAt_crash_iff.1 ⟨c, h⟩)
    | unnamed h ho => exact .name h ho
    | @unread text o _ h ho hd hc =>
      cases hu : unusable o.toText with
      | some d => exact .output h ho hd hu
      | none =>
        unfold hasContent at hc
        split at hc
        · rename_i content hread
          split at hc
          · cases hc
          · rename_i fault ht
            exact .text h ho hd hu ht (Or.inl ⟨content, hread⟩)
        · cases hc
        · rename_i d hos hread
          rcases readFile_eq_error hread with ⟨e, rfl⟩ | hd
          · exact absurd rfl (hos e)
          · simp [hu] at hd
    | unwritten h ho hd hc hw hos =>
      have hu := unusable_of_hasContent hc
      cases (replace_crash_iff g (hp _ ho)).1 ⟨hw, hos⟩ with
      | temporary ht htu => exact .temporary h ho hd hc ht htu
      | content hk ht => exact .text h ho hd hu ht (Or.inr ⟨_, hk⟩)
      | target _ _ hu' => simp [hu] at hu'

/-! ## Runs -/

/-- a run that does not stop at failures ends early only in a descriptor that leaks -/
theorem Layout.turn_ok (L : Layout settings fs root l paths) (hf : settings.failFast = false) {places : Set Location}
    {cur mid : FileSystem} (h : AgreeOff places fs cur) {p : Path} (hp : p ∈ paths) {x : Except Ending FileResult}
    (ht : Turn settings dryRun cur p x mid) : (∃ r, x = .ok r) ↔ ¬ Leaks settings dryRun cur p := by
  rw [leaks_iff (h.grounded L.wf.grounded) fun o ho => L.isProper hp ho]
  cases ht with
  | done hpr => exact ⟨fun _ ⟨c, fs', hc⟩ => (by cases (hpr.unique hc).1), fun _ => ⟨_, rfl⟩⟩
  | skipped _ hpr => exact ⟨fun _ ⟨c, fs', hc⟩ => (by cases (hpr.unique hc).1), fun _ => ⟨_, rfl⟩⟩
  | stopped hs => rw [hf] at hs; cases hs
  | crashed hpr => exact ⟨fun ⟨r, hr⟩ => (by cases hr), fun hn => absurd ⟨_, _, hpr⟩ hn⟩

/-- **Nothing is lost** exactly when no descriptor leaks at its turn. -/
theorem nothing_lost_iff (wf : fs.WellFormed) (hs : Settings.checkSuffixes settings = .ok settings)
    (hf : settings.failFast = false) (dryRun : Bool) (notices : List Notice)
    (hw : fs.walkSuffix (Path.ofText settings.sourceDir) settings.descriptorSuffix = .ok paths) :
    (∃ report, ((run settings dryRun none).run ⟨fs, notices⟩).1 = .ok report ∧
      report.files.map FileResult.source = paths.map Path.toText) ↔
    ∀ done p rest rs mid, paths = done ++ p :: rest → Trail settings dryRun fs done rs mid →
      ¬ Leaks settings dryRun mid p := by
  obtain ⟨root, l, -, -, L⟩ := layout_of_walk wf (descriptorSuffix_ne_nil hs) hw
  have agrees : ∀ {done rs mid} {q : Path} {rest : List Path}, paths = done ++ q :: rest →
      Trail settings dryRun fs done rs mid → ∃ places, AgreeOff places fs mid := by
    intro done rs mid q rest hp t
    exact ⟨_, (L.trail_of_prefix t ⟨_, hp.symm⟩).1⟩
  rcases run_course settings dryRun none ⟨fs, notices⟩ with ⟨t, hw', -⟩ | ⟨paths', r, hw', hc, hr⟩
  · cases hw.symm.trans hw'
  · obtain rfl : paths = paths' := Except.ok.inj (hw.symm.trans hw')
    rw [hr]
    constructor
    · rintro ⟨report, hreport, -⟩ done p rest rs mid hp ht
      cases hc with
      | interrupted => cases hreport
      | ended => cases hreport
      | @finished rs fs' t =>
        rw [hp] at t
        obtain ⟨_, _, mid', -, t1, t2⟩ := t.split
        obtain ⟨-, rfl⟩ := t1.unique ht
        obtain ⟨places, hagree⟩ := agrees hp t1
        cases t2 with
        | cons hturn _ => exact (L.turn_ok hf hagree (by simp [hp]) hturn).1 ⟨_, rfl⟩
    · intro h
      cases hc with
      | finished t => exact ⟨_, rfl, t.sources⟩
      | interrupted _ hi => cases hi
      | ended hp t hturn =>
        obtain ⟨places, hagree⟩ := agrees hp t
        obtain ⟨r, hr⟩ := (L.turn_ok hf hagree (by simp [hp]) hturn).2 (h _ _ _ _ _ hp t)
        cases hr

/-- a run over a descriptor that has a declaration, one that has none, and one whose declaration has a directory in its
place -/
theorem nothing_lost_iff_three :
    let fs : FileSystem := ⟨[([("d" : Text)], .directory 0o755),
      (["d", "A.json"], .file (Utf8.encodeAll "\x7b\"name\":\"A\",\"methods\":[]\x7d") 0o644),
      (["d", "B.json"], .file (Utf8.encodeAll "\x7b\"name\":\"B\"\x7d") 0o644), (["d", "C.d.ts"], .directory 0o755),
      (["d", "C.json"], .file (Utf8.encodeAll "\x7b\"name\":\"C\",\"methods\":[]\x7d") 0o644)], [], 0o022, [], .usual⟩
    let settings : Settings := ⟨"d", ".json", ".d.ts", false⟩
    let paths : List Path := [⟨"/", ["d", "A.json"]⟩, ⟨"/", ["d", "B.json"]⟩, ⟨"/", ["d", "C.json"]⟩]
    fs.WellFormed ∧ Settings.checkSuffixes settings = .ok settings ∧ settings.failFast = false ∧
      fs.walkSuffix (Path.ofText settings.sourceDir) settings.descriptorSuffix = .ok paths ∧
      ((run settings false none).run ⟨fs, []⟩).1.map (fun report => report.files.map FileResult.status) =
        .ok [.written, .failed, .failed] ∧
      ∀ done p rest rs mid, paths = done ++ p :: rest → Trail settings false fs done rs mid →
        ¬ Leaks settings false mid p := by
  intro fs settings paths
  have wf : fs.WellFormed := by decide +kernel
  have hw : fs.walkSuffix (Path.ofText settings.sourceDir) settings.descriptorSuffix = .ok paths := by
    decide +kernel
  have hrun : ((run settings false none).run ⟨fs, []⟩).1.map (fun report =>
      (report.files.map FileResult.source, report.files.map FileResult.status)) =
      .ok (paths.map Path.toText, [.written, .failed, .failed]) := by decide +kernel
  obtain ⟨report, hreport, hfiles⟩ := Except.exists_of_map hrun
  obtain ⟨hsources, hstatus⟩ := Prod.mk.inj hfiles
  refine ⟨wf, rfl, rfl, hw, ?_, (nothing_lost_iff wf rfl rfl false [] hw).1 ⟨report, hreport, hsources⟩⟩
  rw [hreport, Except.map, hstatus]

/-- **One descriptor ends the whole run.** The name of `Surr` is a surrogate, which is read but cannot be written:
there is no report, and nothing is done for `T`. -/
theorem surrogate_lost :
    let fs : FileSystem := ⟨[([("d" : Text)], .directory 0o755),
      (["d", "Surr.json"], .file (Utf8.encodeAll "\x7b\"name\":\"\\ud800\",\"methods\":[]\x7d") 0o644),
      (["d", "T.json"], .file (Utf8.encodeAll "\x7b\"name\":\"T\",\"methods\":[]\x7d") 0o644)], [], 0o022, [], .usual⟩
    let settings : Settings := ⟨"d", ".json", ".d.ts", false⟩
    fs.WellFormed ∧ Settings.checkSuffixes settings = .ok settings ∧
      fs.walkSuffix (Path.ofText settings.sourceDir) settings.descriptorSuffix =
        .ok [⟨"/", ["d", "Surr.json"]⟩, ⟨"/", ["d", "T.json"]⟩] ∧
      ((run settings false none).run ⟨fs, []⟩).1 = .error (.trouble (.crash (.encoding ⟨0xD800, 14, 1⟩))) ∧
      ((run settings false none).run ⟨fs, []⟩).2.fs.find? ["d", "T.d.ts"] = none := by
  intro fs settings
  have wf : fs.WellFormed := by decide
  exact ⟨wf, rfl, by decide +kernel, by decide +kernel, by decide +kernel⟩

end Generate
end Typings
