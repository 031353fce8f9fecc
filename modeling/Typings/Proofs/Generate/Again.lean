/-
A second run.

Over a tidy tree, with suffixes that do not overlap, a run that has given a report leaves nothing to do. Directories
list their entries in the same order both times, in any that the file system has.
- `walkSuffix_again`: a walk lists what it listed, since no descriptor and no directory is touched.
- `Recorded.again`: a descriptor whose declaration is in place is left alone; one that failed fails again.
- `run_again`: a second run changes nothing, and says so.
-/
import Typings.Proofs.Generate.AnyOrder
import Typings.Proofs.Generate.WholeRun

namespace Typings

namespace FileSystem

variable {fs fs' : FileSystem} {places : Set Location}

/-! ## Walks -/

/-- what is picked from below a location is the same if the same stands wherever something is picked -/
theorem filterMap_below_eq (wf : fs.WellFormed) (wf' : fs'.WellFormed) (hchoices : fs'.choices = fs.choices)
    {β : Type} {f : Location × Entry → Option β} {l : Location} (h : ∀ ns e, ns ≠ [] → (f (ns, e)).isSome = true →
      (fs'.find? (l ++ ns) = some e ↔ fs.find? (l ++ ns) = some e)) :
    (fs'.below l).filterMap f = (fs.below l).filterMap f := by
  have picked : (fs'.below l).filter (fun x => (f x).isSome) = (fs.below l).filter fun x => (f x).isSome := by
    have sorted := below_sorted wf' l
    rw [hchoices] at sorted
    refine eq_of_sorted (sorted.filter _) ((below_sorted wf l).filter _) ?_
    rintro ⟨ns, e⟩
    simp only [List.mem_filter, mem_below_iff, wf.mem_iff, wf'.mem_iff]
    constructor
    · rintro ⟨⟨hne, hl, hf⟩, hs⟩
      exact ⟨⟨hne, hl, (h ns e hne hs).1 hf⟩, hs⟩
    · rintro ⟨⟨hne, hl, hf⟩, hs⟩
      exact ⟨⟨hne, hl, (h ns e hne hs).2 hf⟩, hs⟩
  have only : ∀ es : List (Location × Entry), es.filterMap f = (es.filter fun x => (f x).isSome).filterMap f := by
    intro es
    rw [List.filterMap_filter]
    refine List.filterMap_congr fun x _ => ?_
    cases f x <;> rfl
  rw [only, picked, ← only]

/-- the root of a walk leads where it led if no link on its way is touched -/
theorem LeadsTo.resolve_eq (wf : fs.WellFormed) (h : AgreeOff places fs fs') {root : Path} {l : Location}
    (hleads : LeadsTo fs root l) (plain : ∀ k ∈ places, ∀ target, fs.find? k ≠ some (.link target)) :
    fs'.resolve .target root.toText = fs.resolve .target root.toText := by
  obtain ⟨mode, hf⟩ := hleads.found
  rcases resolve_agrees h wf.grounded .target (hleads.starts_below root.names) with ⟨he, -⟩ | ⟨m, hm, way, -, hr, -⟩
  · exact he
  · -- it leads to a directory, and no place is one
    have hr := hr (Or.inl (plain m hm))
    rw [hf] at hr
    have hlm : l = m := location_of_meet hr.symm
    have hd := hleads.holdsDirectory wf.grounded
    rw [hlm, h.before m hm] at hd
    cases hd

theorem walkDirectories_eq (wf : fs.WellFormed) (wf' : fs'.WellFormed) (h : AgreeOff places fs fs') (root : Path)
    (l : Location) : fs'.walkDirectories root l = fs.walkDirectories root l := by
  unfold walkDirectories
  rw [filterMap_below_eq wf wf' h.choices fun ns e _ he => ?_]
  have hd : e.isDirectory = true := by
    by_contra hd
    simp [hd] at he
  by_cases hm : l ++ ns ∈ places
  · -- no directory stands at a place, before or after
    have hb := h.before _ hm
    have hb' := (h.holdsDirectory _).trans hb
    constructor
    · intro hf; simp [FileSystem.holdsDirectory, hf, hd] at hb'
    · intro hf; simp [FileSystem.holdsDirectory, hf, hd] at hb
  · rw [h.same _ hm]

theorem walkFiles_filter_eq (wf : fs.WellFormed) (wf' : fs'.WellFormed) (hchoices : fs'.choices = fs.choices)
    {suffix : Text} (keep : ∀ d n, n.endsWith suffix = true → fs'.find? (d ++ [n]) = fs.find? (d ++ [n])) (root : Path)
    (l : Location) : (fs'.walkFiles root l).filter (fun p => p.name.endsWith suffix) =
      (fs.walkFiles root l).filter fun p => p.name.endsWith suffix := by
  unfold walkFiles
  rw [List.filter_filterMap, List.filter_filterMap]
  refine filterMap_below_eq wf wf' hchoices fun ns e hne he => ?_
  obtain ⟨d, n, rfl⟩ := (List.eq_nil_or_concat ns).resolve_left hne
  rw [List.concat_eq_append] at he ⊢
  have hn : n.endsWith suffix = true := by
    cases e with
    | file content mode => simpa [descend_name root] using he
    | _ => simp at he
  rw [← List.append_assoc, keep _ _ hn]

/-- **A walk lists what it listed** if no directory and no file with the suffix is touched. -/
theorem walkSuffix_again (wf : fs.WellFormed) (wf' : fs'.WellFormed) (h : AgreeOff places fs fs')
    (plain : ∀ k ∈ places, ∀ target, fs.find? k ≠ some (.link target)) (hdenied : fs'.denied = fs.denied)
    {suffix : Text} (keep : ∀ d n, n.endsWith suffix = true → fs'.find? (d ++ [n]) = fs.find? (d ++ [n]))
    {t : Text} {paths : List Path} (hw : fs.walkSuffix (Path.ofText t) suffix = .ok paths) :
    fs'.walkSuffix (Path.ofText t) suffix = .ok paths := by
  obtain ⟨root, l, habs, hleads, -⟩ := walkSuffix_eq_ok wf hw
  have habs' : fs'.absolute (Path.ofText t) = .ok root := by
    simpa only [absolute, workingDirectory, h.cwd] using habs
  have hentry := entryAt_congr (hleads.resolve_eq wf h plain)
  have hlook : fs'.look root.toText = fs.look root.toText := by simp only [look, hentry]
  have hdirs := walkDirectories_eq wf wf' h root
  have hfiles := walkFiles_filter_eq wf wf' h.choices keep root
  rw [← hw]
  unfold walkSuffix walk
  simp only [habs, habs', hlook, hentry, canList, hdenied, hdirs]
  cases fs.look root.toText with
  | error c => rfl
  | ok found =>
    cases found with
    | none => rfl
    | some e =>
      cases e with
      | directory mode =>
        cases fs.entryAt root.toText with
        | error c => rfl
        | ok x =>
          simp only
          split
          · rfl
          · simp only [Except.map, hfiles]
      | _ => rfl

end FileSystem

namespace Generate

open FileSystem Replace

variable {settings : Settings} {fs fs' cur mid : FileSystem} {root : Path} {l : Location} {paths : List Path}
  {p o : Path} {places : Set Location} {dryRun : Bool} {r r' : FileResult} {rs : List FileResult}

/-! ## Turns again -/

/-- an entry of a second report, next to that of the first: what is in place is left alone, and what failed fails -/
inductive Repeated (r r' : FileResult) : Prop
  | settled (hr : r.status = .written ∨ r.status = .unchanged) (hs : r'.source = r.source)
      (ho : r'.output = r.output) (hr' : r'.status = .unchanged)
  | failed (hr : r.status = .failed) (hs : r'.source = r.source) (he : r'.exitCode = r.exitCode)
      (hr' : r'.status = .failed)

/-- a turn that does not fail has a path that can be used for its declaration -/
theorem Turn.usable (h : Turn settings false cur p (.ok r) mid) (hr : r.status ≠ .failed)
    (ho : outputPath p settings = .ok o) : unusable o.toText = none := by
  have usable : ∀ {o' : Path} {text : Text} {same : Bool}, outputPath p settings = .ok o' →
      hasContent cur o' text = .ok same → unusable o.toText = none := by
    intro o' text same ho' hc
    obtain rfl := Except.ok.inj (ho.symm.trans ho')
    exact unusable_of_hasContent hc
  cases h with
  | done h =>
    cases h with
    | planned _ _ hd => cases hd
    | unchanged _ ho' _ hc => exact usable ho' hc
    | written _ ho' _ hc => exact usable ho' hc
  | skipped => exact absurd rfl hr

/-- **A descriptor whose declaration is in place** is left alone. -/
theorem Recorded.again (h : Recorded settings fs fs' p r) (hr : r.status ≠ .failed)
    (hdecl : declarationAt fs' p = declarationAt fs p)
    (hu : ∀ o, outputPath p settings = .ok o → unusable o.toText = none) :
    ∃ r', Turn settings false fs' p (.ok r') fs' ∧ Repeated r r' := by
  obtain ⟨text, o, octets, k, mode, hd, ho, hout, ht, hres⟩ := h.declared hr
  have hstatus : r.status = .written ∨ r.status = .unchanged := by
    by_cases hh : HasDeclaration settings fs p
    · exact Or.inr (h.unchanged_iff.2 ⟨fun hf => hr (h.failed_iff.2 hf), hh⟩)
    · exact Or.inl (h.written_iff.2 ⟨fun hf => hr (h.failed_iff.2 hf), hh⟩)
  have hc : hasContent fs' o text = .ok true :=
    hasContent_true_iff.2 ⟨octets, ht, readFile_of_reached (hu o ho) hres⟩
  refine ⟨result p o .unchanged, .done (.unchanged (hdecl.trans hd) ho rfl hc), .settled hstatus ?_ ?_ rfl⟩
  · rw [h.source]; rfl
  · rw [hout]; rfl

/-! ## Runs again -/

/-- turns that change nothing make a trail that changes nothing -/
theorem trail_of_idle
    (h : List.Forall₂ (fun p r => ∃ r', Turn settings dryRun fs p (.ok r') fs ∧ Repeated r r') paths rs) :
    ∃ rs', Trail settings dryRun fs paths rs' fs ∧ List.Forall₂ Repeated rs rs' := by
  induction h with
  | nil => exact ⟨[], .nil fs, .nil⟩
  | cons hpr _ ih =>
    obtain ⟨r', ht, hr⟩ := hpr
    obtain ⟨rs', t, hrs⟩ := ih
    exact ⟨r' :: rs', .cons ht t, .cons hr hrs⟩

/-- **A second trail** repeats the first. -/
theorem Layout.trail_again (L : Layout settings fs root l paths) (tidy : Tidy settings fs paths)
    (sep : Separate settings) (hf : settings.failFast = false) (t : Trail settings false fs paths rs fs') :
    ∃ rs', Trail settings false fs' paths rs' fs' ∧ List.Forall₂ Repeated rs rs' := by
  obtain ⟨⟨places, -, A, hplaces⟩, -⟩ := (Amid.first L.wf).trail L t fun p hp => hp
  obtain ⟨-, hturns⟩ := L.trail_of_prefix t List.prefix_rfl
  have recorded : List.Forall₂ (Recorded settings fs fs') paths rs :=
    forall₂_imp_mem hturns fun p hp r ⟨_, _, _, hturn⟩ => hturn.recorded L tidy sep hp A.agree A.known
  refine trail_of_idle (List.forall₂_iff_zip.2 ⟨recorded.length_eq, fun {p r} hpr => ?_⟩)
  have hp : p ∈ paths := (List.of_mem_zip hpr).1
  have hrec : Recorded settings fs fs' p r := (List.forall₂_iff_zip.1 recorded).2 hpr
  by_cases hr : r.status = .failed
  · -- nothing was written for it, so it has its turn as if it had none before
    have free : ∀ k, HasPlace settings fs p k → k ∉ places := by
      intro k hk hm
      rcases (hplaces k).1 hm with hm | ⟨⟨q, rq⟩, hx, hw, hqk⟩
      · exact hm
      · obtain rfl := L.place_injective hp (List.of_mem_zip hx).1 hk hqk
        have hrecq : Recorded settings fs fs' p rq := (List.forall₂_iff_zip.1 recorded).2 hx
        exact (hrecq.written_iff.1 hw).1 (hrec.failed_iff.1 hr)
    obtain ⟨r₀, mid₀, h₀, hsame, -⟩ := L.trail_echo tidy sep hf t (fun _ hq => hq) L.nodup hpr
    obtain ⟨r', mid, h', hsame', -⟩ := A.turn_ok L tidy sep hf hp free h₀
    obtain ⟨hs, -, hst, he⟩ := (hsame.symm.trans hsame').fields
    have hr' : r'.status = .failed := hst.trans hr
    rcases L.turn_cases A.agree hp h' with ⟨rfl, -⟩ | ⟨r₁, _, _, _, _, hx, hw, -⟩
    · exact ⟨r', h', .failed hr hs he hr'⟩
    · obtain rfl := Except.ok.inj hx
      rw [hw] at hr'
      cases hr'
  · obtain ⟨_, _, cur, hturn⟩ := (List.forall₂_iff_zip.1 hturns).2 hpr
    exact hrec.again hr (L.declarationAt_eq tidy sep hp A.agree A.known) fun o ho => hturn.turn.usable hr ho

/-- **A second run** over what a run has left changes nothing. It reports what is in place as unchanged, and fails where
the first run failed. -/
theorem run_again (wf : fs.WellFormed) (sep : Separate settings) (hf : settings.failFast = false)
    (tidy : ∀ paths, fs.walkSuffix (Path.ofText settings.sourceDir) settings.descriptorSuffix = .ok paths →
      Tidy settings fs paths) (notices notices' : List Notice) {report : Report}
    (h : ((run settings false none).run ⟨fs, notices⟩).1 = .ok report)
    (hfs : ((run settings false none).run ⟨fs, notices⟩).2.fs = fs') :
    ∃ report', ((run settings false none).run ⟨fs', notices'⟩).1 = .ok report' ∧
      ((run settings false none).run ⟨fs', notices'⟩).2.fs = fs' ∧
      report'.sourceDir = report.sourceDir ∧ report'.dryRun = report.dryRun ∧
      List.Forall₂ Repeated report.files report'.files := by
  obtain ⟨paths, rs, hw, t, rfl⟩ := run_ok_iff.1 ⟨h, hfs⟩
  obtain ⟨root, l, -, -, L⟩ := layout_of_walk wf sep.descriptorSuffix_ne_nil hw
  have tidy := tidy paths hw
  obtain ⟨⟨places, -, A, -⟩, -⟩ := (Amid.first wf).trail L t fun p hp => hp
  have hkeep : KeepsSuffix settings.descriptorSuffix fs fs' :=
    (L.keepsSuffix_iff t List.prefix_rfl).2 fun x _ _ => sep.outputName _
  have plain : ∀ k ∈ places, ∀ target, fs.find? k ≠ some (.link target) := by
    intro k hk
    obtain ⟨q, hq, hqk⟩ := A.known k hk
    exact tidy.find?_ne_link L hq hqk
  have hw' := walkSuffix_again wf A.wf A.agree plain A.denied hkeep hw
  obtain ⟨rs', t', hrs⟩ := L.trail_again tidy sep hf t
  obtain ⟨h', hfs'⟩ := (run_ok_iff (s := ⟨fs', notices'⟩)).2 ⟨paths, rs', hw', t', rfl⟩
  exact ⟨_, h', hfs', rfl, rfl, hrs⟩

/-- two runs over a descriptor that has a declaration and one that has none -/
theorem run_again_two :
    let fs : FileSystem := ⟨[([("d" : Text)], .directory 0o755),
      (["d", "A.json"], .file (Utf8.encodeAll "\x7b\"name\":\"A\",\"methods\":[]\x7d") 0o644),
      (["d", "B.json"], .file (Utf8.encodeAll "\x7b\"name\":\"B\"\x7d") 0o644)], [], 0o022, [], .usual⟩
    let settings : Settings := ⟨"d", ".json", ".d.ts", false⟩
    let fs' : FileSystem := ((run settings false none).run ⟨fs, []⟩).2.fs
    fs.WellFormed ∧ Separate settings ∧ settings.failFast = false ∧
      (∀ paths, fs.walkSuffix (Path.ofText settings.sourceDir) settings.descriptorSuffix = .ok paths →
        Tidy settings fs paths) ∧ fs' ≠ fs ∧
      ∃ report, ((run settings false none).run ⟨fs, []⟩).1 = .ok report ∧
        ∃ report', ((run settings false none).run ⟨fs', []⟩).1 = .ok report' ∧
          ((run settings false none).run ⟨fs', []⟩).2.fs = fs' ∧
          report'.sourceDir = report.sourceDir ∧ report'.dryRun = report.dryRun ∧
          List.Forall₂ Repeated report.files report'.files := by
  intro fs settings fs'
  have wf : fs.WellFormed := by decide
  have sep : Separate settings := by decide
  have tidy : ∀ paths, fs.walkSuffix (Path.ofText settings.sourceDir) settings.descriptorSuffix = .ok paths →
      Tidy settings fs paths := by
    intro paths hw
    have hp : fs.walkSuffix (Path.ofText settings.sourceDir) settings.descriptorSuffix =
        .ok [⟨"/", ["d", "A.json"]⟩, ⟨"/", ["d", "B.json"]⟩] := by decide +kernel
    obtain rfl := Except.ok.inj (hw.symm.trans hp)
    decide +kernel
  have hnew : fs'.entries.length = 4 := by decide +kernel
  have hok : ((run settings false none).run ⟨fs, []⟩).1.isOk = true := by decide +kernel
  refine ⟨wf, sep, rfl, tidy, fun he => ?_, ?_⟩
  · rw [he] at hnew
    exact absurd hnew (by decide)
  · cases hrun : ((run settings false none).run ⟨fs, []⟩).1 with
    | error e => rw [hrun] at hok; cases hok
    | ok report => exact ⟨report, rfl, run_again wf sep rfl tidy [] [] hrun rfl⟩

end Generate
end Typings
