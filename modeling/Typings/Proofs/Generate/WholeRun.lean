/-
Whole runs: what a generation reports, and what it leaves.

- `run_generates`: over a tidy tree, with suffixes that do not overlap, a run that gives a report has an entry for each
  descriptor in the order of the walk. The entry says what the first file system says of the descriptor, of its
  declaration and of the file beside it; the declarations are in place; nothing else is changed.
-/
import Typings.Proofs.Generate.Steady

namespace Typings.Generate

open FileSystem Replace

variable {settings : Settings} {fs fs' cur mid : FileSystem} {root : Path} {l : Location} {paths : List Path}
  {p o : Path} {places : Set Location} {text : Text} {r : FileResult}

/-! ## What a file system says of a descriptor -/

/-- the descriptor has no declaration, or its declaration cannot be written -/
def Fails (settings : Settings) (fs : FileSystem) (p : Path) : Prop :=
  (∃ f, declarationAt fs p = .error (.failure f)) ∨
    ∃ text o e, declarationAt fs p = .ok text ∧ outputPath p settings = .ok o ∧
      hasContent fs o text = .ok false ∧ (fs.replace o text).2 = .error (.os e)

/-- the declaration's octets are in the file beside the descriptor -/
def HasDeclaration (settings : Settings) (fs : FileSystem) (p : Path) : Prop :=
  ∃ text o octets, declarationAt fs p = .ok text ∧ outputPath p settings = .ok o ∧
    Utf8.encode text = .ok octets ∧ fs.readFile o.toText = .ok octets

/-- the entry of a descriptor in the report of a run from one file system to another -/
structure Recorded (settings : Settings) (fs fs' : FileSystem) (p : Path) (r : FileResult) : Prop where
  source : r.source = p.toText
  failed_iff : r.status = .failed ↔ Fails settings fs p
  unchanged_iff : r.status = .unchanged ↔ ¬ Fails settings fs p ∧ HasDeclaration settings fs p
  written_iff : r.status = .written ↔ ¬ Fails settings fs p ∧ ¬ HasDeclaration settings fs p
  /-- a descriptor that has not failed has a file with its declaration beside it -/
  declared : r.status ≠ .failed → ∃ text o octets k mode, declarationAt fs p = .ok text ∧
    outputPath p settings = .ok o ∧ r.output = some o.toText ∧ Utf8.encode text = .ok octets ∧
    fs'.resolve .entry o.toText = .ok (.entry k (.file octets mode))

theorem hasContent_true_iff : hasContent fs o text = .ok true ↔
    ∃ octets, Utf8.encode text = .ok octets ∧ fs.readFile o.toText = .ok octets := by
  unfold hasContent
  cases hr : fs.readFile o.toText with
  | error c => cases c <;> simp
  | ok content =>
    cases ht : Utf8.encode text with
    | error fault => simp
    | ok octets => simp

/-- the octets beside a descriptor are those of a file -/
theorem Tidy.resolve_of_readFile (tidy : Tidy settings fs paths) (hp : p ∈ paths)
    (ho : outputPath p settings = .ok o) {octets : Bytes} (h : fs.readFile o.toText = .ok octets) :
    ∃ k mode, fs.resolve .entry o.toText = .ok (.entry k (.file octets mode)) := by
  unfold readFile at h
  cases he : fs.entryAt o.toText with
  | error c => simp [he, bind, Except.bind] at h
  | ok found =>
    obtain ⟨k, e⟩ := found
    have hres : fs.resolve .entry o.toText = .ok (.entry k e) :=
      (resolve_target (tidy.ne_link hp ho)).symm.trans (entryAt_eq_ok he).2
    rcases tidy.plain p hp o ho k e hres with ⟨content, mode, rfl⟩ | ⟨mode, rfl⟩
    · simp only [he, bind, Except.bind, pure, Except.pure, Except.ok.injEq] at h
      exact ⟨k, mode, h ▸ hres⟩
    · simp [he, bind, Except.bind, refuse] at h

/-! ## Turns -/

/-- what a turn did, in terms of the first file system -/
inductive Did (settings : Settings) (fs cur : FileSystem) (p : Path) : FileResult → FileSystem → Prop
  | failed {f : Failure} (h : Fails settings fs p) : Did settings fs cur p (failedResult p f) cur
  | unchanged {text : Text} {o : Path} (h : declarationAt fs p = .ok text) (ho : outputPath p settings = .ok o)
      (hc : hasContent fs o text = .ok true) : Did settings fs cur p (result p o .unchanged) cur
  | written {text : Text} {o : Path} {k : Location} {octets : Bytes} {mode : Nat}
      (h : declarationAt fs p = .ok text) (ho : outputPath p settings = .ok o)
      (hc : hasContent fs o text = .ok false) (hw : (fs.replace o text).2 = .ok ())
      (ht : Utf8.encode text = .ok octets) (hk : HasPlace settings fs p k) :
      Did settings fs cur p (result p o .written) (cur.put k (.file octets mode))

/-- **A turn does what the first file system says.** -/
theorem Before.did (L : Layout settings fs root l paths) (tidy : Tidy settings fs paths) (sep : Separate settings)
    (hp : p ∈ paths) (h : Before settings fs paths p places cur) (hturn : Turn settings false cur p (.ok r) mid) :
    Did settings fs cur p r mid := by
  have hdecl := L.declarationAt_eq tidy sep hp h.agree h.known
  cases hturn with
  | done hpr =>
    cases hpr with
    | planned _ _ hd => cases hd
    | @unchanged text o h' ho hd hc =>
      exact .unchanged (hdecl ▸ h') ho ((h.hasContent_eq L tidy hp ho text) ▸ hc)
    | @written text o h' ho hd hc hw =>
      rcases L.turn_cases h.agree hp (.done (.written h' ho hd hc hw)) with
        ⟨-, hn⟩ | ⟨_, text', k, octets, mode, -, -, hwrites, hmid⟩
      · exact absurd rfl (hn _ rfl)
      · obtain rfl : text = text' := Except.ok.inj (h'.symm.trans hwrites.declared)
        rw [hmid]
        exact .written (hdecl ▸ h') ho ((h.hasContent_eq L tidy hp ho text) ▸ hc)
          ((h.replace_ok_iff L tidy hp ho text).1 hw) hwrites.encoded hwrites.place
  | skipped _ hpr =>
    cases hpr with
    | @undeclared t h' => exact .failed (Or.inl ⟨_, hdecl ▸ h'⟩)
    | @refused text o e h' ho hd hc hw =>
      obtain ⟨e', he'⟩ := h.replace_refused L tidy hp ho hw
      have hmid := replace_of_error (h.agree.grounded L.wf.grounded) (L.isProper hp ho) hw
      rw [hmid]
      exact .failed (Or.inr ⟨text, o, e', hdecl ▸ h', ho, (h.hasContent_eq L tidy hp ho text) ▸ hc, he'⟩)

/-- where the path of a declaration leads to a file, it leads there after the run as well -/
theorem resolve_after (L : Layout settings fs root l paths) (tidy : Tidy settings fs paths) (hp : p ∈ paths)
    (ho : outputPath p settings = .ok o) (h : AgreeOff places fs fs')
    (known : ∀ k ∈ places, ∃ q ∈ paths, HasPlace settings fs q k) {t : Target}
    (ht : fs.resolve .entry o.toText = .ok t) {octets : Bytes} {mode : Nat}
    (hf : fs'.find? t.location = some (.file octets mode)) :
    fs'.resolve .entry o.toText = .ok (.entry t.location (.file octets mode)) := by
  rcases resolve_agrees h L.wf.grounded .entry (L.starts hp ho) with ⟨he, hoff⟩ | ⟨m, hm, way, he, hr, hopen⟩
  · have hh := resolve_holds L.wf.grounded (L.starts hp ho) ht
    rw [h.same _ (hoff t ht)] at hf
    rw [he, ht]
    cases t with
    | absent k => exact absurd (hf.symm.trans hh) (by simp)
    | entry k e =>
      have hke : fs.find? k = some e := hh
      rw [Target.location, hke, Option.some.injEq] at hf
      rw [hf, Target.location]
  · obtain ⟨q, hq, hk⟩ := known m hm
    have hr := hr (Or.inl (tidy.find?_ne_link L hq hk))
    rw [ht] at hr
    have hloc : t.location = m := location_of_meet hr.symm
    rw [hloc] at hf ⊢
    rw [he, hf]
    cases way with
    | last => rfl
    | opened => simp [L.endsOpen hp ho] at hopen
    | onward => cases hfm : fs.find? m <;> simp [hfm, meet] at hr

/-- whether a descriptor that has a declaration fails depends on its file only -/
theorem fails_iff (hd : declarationAt fs p = .ok text) (ho : outputPath p settings = .ok o) :
    Fails settings fs p ↔ hasContent fs o text = .ok false ∧ ∃ e, (fs.replace o text).2 = .error (.os e) := by
  constructor
  · rintro (⟨f, hf⟩ | ⟨text', o', e, hd', ho', hc, he⟩)
    · rw [hd] at hf; cases hf
    · obtain rfl := Except.ok.inj (hd.symm.trans hd')
      obtain rfl := Except.ok.inj (ho.symm.trans ho')
      exact ⟨hc, e, he⟩
  · rintro ⟨hc, e, he⟩
    exact Or.inr ⟨text, o, e, hd, ho, hc, he⟩

theorem hasDeclaration_iff (hd : declarationAt fs p = .ok text) (ho : outputPath p settings = .ok o) :
    HasDeclaration settings fs p ↔ hasContent fs o text = .ok true := by
  rw [hasContent_true_iff]
  constructor
  · rintro ⟨text', o', octets, hd', ho', ht, hread⟩
    obtain rfl := Except.ok.inj (hd.symm.trans hd')
    obtain rfl := Except.ok.inj (ho.symm.trans ho')
    exact ⟨octets, ht, hread⟩
  · rintro ⟨octets, ht, hread⟩
    exact ⟨text, o, octets, hd, ho, ht, hread⟩

/-- **An entry says what the first file system says**, and the declaration is in place after the run. -/
theorem TookTurn.recorded (L : Layout settings fs root l paths) (tidy : Tidy settings fs paths)
    (sep : Separate settings) (hp : p ∈ paths) (h : TookTurn settings false fs fs' paths p r places cur mid)
    {after : Set Location} (hagree : AgreeOff after fs fs')
    (known : ∀ k ∈ after, ∃ q ∈ paths, HasPlace settings fs q k) : Recorded settings fs fs' p r := by
  have hsource := h.turn.source
  have hstays := h.stays
  have hfree := h.before.free
  have hsame := h.before.agree.same
  have hdid := h.before.did L tidy sep hp h.turn
  cases hdid with
  | failed hfails =>
    refine ⟨hsource, by simp [failedResult, hfails], by simp [failedResult, hfails], by simp [failedResult, hfails], ?_⟩
    simp [failedResult]
  | @unchanged text o hd ho hc =>
    obtain ⟨octets, ht, hread⟩ := hasContent_true_iff.1 hc
    have hfails : ¬ Fails settings fs p := by simp [fails_iff hd ho, hc]
    have hhas : HasDeclaration settings fs p := (hasDeclaration_iff hd ho).2 hc
    refine ⟨hsource, by simp [result, hfails], by simp [result, hfails, hhas], by simp [result, hhas], fun _ => ?_⟩
    obtain ⟨k, mode, hres⟩ := tidy.resolve_of_readFile hp ho hread
    have hk : HasPlace settings fs p k := L.hasPlace_of_resolve hp ho hres rfl
    have hold : fs'.find? k = some (.file octets mode) := by
      rw [hstays k hk, hsame k (hfree k hk)]
      exact resolve_holds L.wf.grounded (L.starts hp ho) hres
    exact ⟨text, o, octets, k, mode, hd, ho, rfl, ht, resolve_after L tidy hp ho hagree known hres hold⟩
  | @written text o k octets mode hd ho hc hw ht hk =>
    have hfails : ¬ Fails settings fs p := by simp [fails_iff hd ho, hw]
    have hhas : ¬ HasDeclaration settings fs p := by simp [hasDeclaration_iff hd ho, hc]
    refine ⟨hsource, by simp [result, hfails], by simp [result, hhas], by simp [result, hfails, hhas], fun _ => ?_⟩
    have hdir := hk.holdsDirectory L hp
    have hnew : fs'.find? k = some (.file octets mode) := by
      rw [hstays k hk, find?_put_self cur (ne_nil_of_no_directory hdir)]
    obtain ⟨o', ho', -, t, hres, -, rfl⟩ := hk
    obtain rfl := Except.ok.inj (ho.symm.trans ho')
    exact ⟨text, o, octets, t.location, mode, hd, ho, rfl, ht, resolve_after L tidy hp ho hagree known hres hnew⟩

/-! ## Whole runs -/

/-- the paths of a run: one for each file below the source directory whose name has the descriptor suffix, in the order
in which the directories are listed -/
def Lists (settings : Settings) (fs : FileSystem) (paths : List Path) : Prop :=
  ∃ (root : Path) (l : Location) (names : List Location),
    fs.absolute (Path.ofText settings.sourceDir) = .ok root ∧ LeadsTo fs root l ∧
    paths = names.map (descend root) ∧ names.Pairwise (fun a b => Location.before fs.choices.order l a b = true) ∧
    ∀ ns : Location, ns ∈ names ↔ (ns ≠ [] ∧ ∃ content mode, fs.find? (l ++ ns) = some (.file content mode)) ∧
      (ns.getLast?.getD []).endsWith settings.descriptorSuffix = true

/-- what a run from one file system to another reports and does -/
structure Generates (settings : Settings) (fs fs' : FileSystem) (paths : List Path) (report : Report) : Prop where
  sourceDir : report.sourceDir = settings.sourceDir
  wet : report.dryRun = false
  entries : List.Forall₂ (Recorded settings fs fs') paths report.files
  /-- nothing is changed but the files that the report says are written -/
  others : ∀ k, (∀ x ∈ paths.zip report.files, x.2.status = .written → ¬ HasPlace settings fs x.1 k) →
    fs'.find? k = fs.find? k
  /-- no descriptor is changed -/
  descriptors : KeepsSuffix settings.descriptorSuffix fs fs'

/-- a forall over two lists gives its fact for each pair, together with the membership of the pair -/
theorem forall₂_imp_mem {α β : Type} {R S : α → β → Prop} {as : List α} {bs : List β} (h : List.Forall₂ R as bs)
    (hrs : ∀ a ∈ as, ∀ b, R a b → S a b) : List.Forall₂ S as bs := by
  induction h with
  | nil => exact .nil
  | cons hab _ ih =>
    exact .cons (hrs _ List.mem_cons_self _ hab) (ih fun a ha b => hrs a (List.mem_cons_of_mem _ ha) b)

/-- **Generation is correct.** Over a tidy tree and with suffixes that do not overlap, a run that gives a report has
listed all descriptors, has recorded each as the first file system says, and has written their declarations and
nothing else. -/
theorem run_generates (wf : fs.WellFormed) (sep : Separate settings)
    (tidy : ∀ paths, fs.walkSuffix (Path.ofText settings.sourceDir) settings.descriptorSuffix = .ok paths →
      Tidy settings fs paths) (interrupt : Option Nat) (notices : List Notice) {report : Report}
    (h : ((run settings false interrupt).run ⟨fs, notices⟩).1 = .ok report) :
    ∃ paths, fs.walkSuffix (Path.ofText settings.sourceDir) settings.descriptorSuffix = .ok paths ∧
      Lists settings fs paths ∧
      Generates settings fs ((run settings false interrupt).run ⟨fs, notices⟩).2.fs paths report := by
  rcases run_course settings false interrupt ⟨fs, notices⟩ with ⟨t, -, he⟩ | ⟨paths, x, hw, hc, hx⟩
  · rw [he] at h; cases h
  · obtain ⟨root, l, ha, hpaths, L⟩ := layout_of_walk wf sep.descriptorSuffix_ne_nil hw
    have tidy := tidy paths hw
    refine ⟨paths, hw, ⟨root, l, _, ha, L.leads, hpaths, (filesBelow_sorted wf l).filter _, fun ns => ?_⟩, ?_⟩
    · rw [← mem_filesBelow_iff wf]
      exact List.mem_filter
    · rw [hx] at h
      cases hc with
      | interrupted => cases h
      | ended => cases h
      | @finished rs fs' t =>
        cases h
        obtain ⟨hagree, hturns⟩ := L.trail_of_prefix t List.prefix_rfl
        have known : ∀ k ∈ writtenPlaces settings fs (paths.zip rs), ∃ q ∈ paths, HasPlace settings fs q k := by
          rintro k ⟨⟨q, r⟩, hx, -, hk⟩
          exact ⟨q, (List.of_mem_zip hx).1, hk⟩
        refine ⟨rfl, rfl, ?_, fun k hk => ?_, ?_⟩
        · exact forall₂_imp_mem hturns fun p hp r ⟨places, cur, mid, hturn⟩ =>
            hturn.recorded L tidy sep hp hagree known
        · refine hagree.same k ?_
          rintro ⟨x, hx, hr, hp⟩
          exact hk x hx hr hp
        · exact (L.keepsSuffix_iff t List.prefix_rfl).2 fun x _ _ => sep.outputName _

/-- a run over a descriptor whose declaration is in place, one that has none, a link that is passed over, and a
descriptor whose declaration is written -/
theorem run_generates_three :
    let fs : FileSystem := ⟨[([("d" : Text)], .directory 0o755),
      (["d", "A.d.ts"], .file (Utf8.encodeAll "\nexport class A \x7b\n\x7d\n") 0o600),
      (["d", "A.json"], .file (Utf8.encodeAll "\x7b\"name\":\"A\",\"methods\":[]\x7d") 0o640),
      (["d", "B.json"], .file (Utf8.encodeAll "\x7b\"name\":\"B\"\x7d") 0o644),
      (["d", "C.json"], .link "A.json"), (["d", "e"], .directory 0o755),
      (["d", "e", "D.json"], .file (Utf8.encodeAll "\x7b\"name\":\"D\",\"methods\":[]\x7d") 0o644)], [], 0o022, [],
      .usual⟩
    let settings : Settings := ⟨"d", ".json", ".d.ts", false⟩
    fs.WellFormed ∧ Separate settings ∧
      (∀ paths, fs.walkSuffix (Path.ofText settings.sourceDir) settings.descriptorSuffix = .ok paths →
        Tidy settings fs paths) ∧
      ∃ report, ((run settings false none).run ⟨fs, []⟩).1 = .ok report ∧
        report.files.map FileResult.status = [.unchanged, .failed, .written] ∧
        ∃ paths, fs.walkSuffix (Path.ofText settings.sourceDir) settings.descriptorSuffix = .ok paths ∧
          Lists settings fs paths ∧
          Generates settings fs ((run settings false none).run ⟨fs, []⟩).2.fs paths report := by
  intro fs settings
  have wf : fs.WellFormed := by decide +kernel
  have sep : Separate settings := by decide
  have tidy : ∀ paths, fs.walkSuffix (Path.ofText settings.sourceDir) settings.descriptorSuffix = .ok paths →
      Tidy settings fs paths := by
    intro paths hw
    have hp : fs.walkSuffix (Path.ofText settings.sourceDir) settings.descriptorSuffix =
        .ok [⟨"/", ["d", "A.json"]⟩, ⟨"/", ["d", "B.json"]⟩, ⟨"/", ["d", "e", "D.json"]⟩] := by decide +kernel
    obtain rfl := Except.ok.inj (hw.symm.trans hp)
    decide +kernel
  have hrun : ((run settings false none).run ⟨fs, []⟩).1.map (fun report => report.files.map FileResult.status) =
      .ok [.unchanged, .failed, .written] := by decide +kernel
  obtain ⟨report, hreport, hstatus⟩ := Except.exists_of_map hrun
  exact ⟨wf, sep, tidy, report, hreport, hstatus, run_generates wf sep tidy none [] hreport⟩

end Typings.Generate
