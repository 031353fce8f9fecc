/-
Steady turns: what the turn of a descriptor finds is what the first file system holds.

The declarations of a tidy tree replace no links and take no temporary names. Then the turns that come before leave
everything as it was that a turn asks for.
- `Layout.declarationAt_eq`: a descriptor has the declaration that it had at first.
- `Before.hasContent_eq`: so has the file beside it.
- `Before.replace_ok_iff`, `Before.replace_refused`: it can be replaced exactly when it could at first.
-/
import Typings.Proofs.Generate.Kept

namespace Typings

namespace FileSystem

variable {fs fs' : FileSystem}

theorem entryAt_congr {t : Text} (h : fs'.resolve .target t = fs.resolve .target t) : fs'.entryAt t = fs.entryAt t := by
  simp only [entryAt, locate, h]

theorem readFile_congr {t : Text} (h : fs'.resolve .target t = fs.resolve .target t) :
    fs'.readFile t = fs.readFile t := by
  simp only [readFile, entryAt_congr h]

theorem readFile_of_error {t : Text} (hu : unusable t = none) {cause : OsCause}
    (h : fs.resolve .target t = .error cause) : fs.readFile t = .error (.os (cause.on t)) := by
  simp [readFile, entryAt, locate, hu, h, bind, Except.bind]

end FileSystem

namespace Replace

open FileSystem

variable {fs : FileSystem} {t : Text}

theorem isTaken_iff : isTaken fs t = true ↔
    unusable t = none ∧ ∃ k e, fs.resolve .entry t = .ok (.entry k e) := by
  unfold isTaken locate
  cases unusable t with
  | some c => simp
  | none =>
    cases fs.resolve .entry t with
    | error cause => simp
    | ok found => cases found <;> simp

end Replace

namespace Generate

open FileSystem Replace

/-- a tree whose declarations are out of the way: at the path of each is nothing, a file or a directory, and none goes
where the temporary file of one goes -/
structure Tidy (settings : Settings) (fs : FileSystem) (paths : List Path) : Prop where
  plain : ∀ p ∈ paths, ∀ o, outputPath p settings = .ok o → ∀ k e, fs.resolve .entry o.toText = .ok (.entry k e) →
    (∃ content mode, e = .file content mode) ∨ ∃ mode, e = .directory mode
  apart : ∀ p ∈ paths, ∀ q ∈ paths, ∀ o k, outputPath p settings = .ok o → IsTemporary fs o k →
    ¬ HasPlace settings fs q k

variable {settings : Settings} {fs cur : FileSystem} {root : Path} {l : Location} {paths : List Path} {p o : Path}
  {places : Set Location} {text : Text}

/-- the place of a declaration, if it has one -/
def place? (settings : Settings) (fs : FileSystem) (p : Path) : Option Location :=
  match outputPath p settings with
  | .error _ => none
  | .ok o =>
    if endsNameless o.toText then none
    else match fs.resolve .entry o.toText with
      | .ok t => if t.isDirectory then none else some t.location
      | .error _ => none

theorem hasPlace_iff {k : Location} : HasPlace settings fs p k ↔ place? settings fs p = some k := by
  unfold HasPlace RenamesTo place?
  cases outputPath p settings with
  | error fault => simp
  | ok o =>
    cases hn : endsNameless o.toText with
    | true => simp [hn]
    | false => cases hr : fs.resolve .entry o.toText <;> simp [hn, hr]

/-- the location of a temporary file, if it can be made -/
def temporary? (fs : FileSystem) (o : Path) : Option Location :=
  match temporaryPath fs o with
  | .error _ => none
  | .ok t =>
    match fs.locate .entry t with
    | .ok (.absent k) => some k
    | _ => none

theorem isTemporary_iff {k : Location} : IsTemporary fs o k ↔ temporary? fs o = some k := by
  unfold IsTemporary Makes temporary?
  cases temporaryPath fs o with
  | error c => simp
  | ok t =>
    cases hl : fs.locate .entry t with
    | error c => simp [hl]
    | ok found => cases found <;> simp [hl]

/-- whether a path leads to nothing, a file or a directory -/
def isPlainAt (fs : FileSystem) (path : Text) : Bool :=
  match fs.resolve .entry path with
  | .ok (.entry _ (.link _)) => false
  | .ok (.entry _ (.pipe _)) => false
  | _ => true

theorem isPlainAt_iff {t : Text} : isPlainAt fs t = true ↔ ∀ k e, fs.resolve .entry t = .ok (.entry k e) →
    (∃ content mode, e = .file content mode) ∨ ∃ mode, e = .directory mode := by
  unfold isPlainAt
  cases hr : fs.resolve .entry t with
  | error c => simp
  | ok found =>
    cases found with
    | absent k => simp
    | entry k e => cases e <;> simp

instance (settings : Settings) (fs : FileSystem) (paths : List Path) : Decidable (Tidy settings fs paths) :=
  decidable_of_iff
    ((∀ p ∈ paths, ∀ o ∈ (outputPath p settings).toOption, isPlainAt fs o.toText = true) ∧
      ∀ p ∈ paths, ∀ q ∈ paths, ∀ o ∈ (outputPath p settings).toOption, ∀ k ∈ temporary? fs o,
        place? settings fs q ≠ some k) <| by
    have mem : ∀ (p o : Path), o ∈ (outputPath p settings).toOption ↔ outputPath p settings = .ok o := by
      intro p o
      cases outputPath p settings <;> simp [Except.toOption, eq_comm]
    simp only [mem, isPlainAt_iff, Option.mem_def, ← isTemporary_iff, ne_eq, ← hasPlace_iff]
    constructor
    · rintro ⟨h1, h2⟩
      exact ⟨h1, fun p hp q hq o k ho => h2 p hp q hq o ho k⟩
    · intro h
      exact ⟨h.plain, fun p hp q hq o ho k => h.apart p hp q hq o k ho⟩

theorem Tidy.ne_link (tidy : Tidy settings fs paths) (hp : p ∈ paths) (ho : outputPath p settings = .ok o)
    (k : Location) (target : Text) : fs.resolve .entry o.toText ≠ .ok (.entry k (.link target)) := by
  intro h
  rcases tidy.plain p hp o ho k _ h with ⟨content, mode, he⟩ | ⟨mode, he⟩ <;> cases he

/-- no link is at a place -/
theorem Tidy.find?_ne_link (tidy : Tidy settings fs paths) (L : Layout settings fs root l paths) (hp : p ∈ paths)
    {k : Location} (hk : HasPlace settings fs p k) (target : Text) : fs.find? k ≠ some (.link target) := by
  obtain ⟨o, ho, -, t, ht, -, rfl⟩ := hk
  have hh := resolve_holds L.wf.grounded (L.starts hp ho) ht
  intro hf
  cases t with
  | absent k => exact absurd (hf.symm.trans hh) (by simp)
  | entry k e =>
    have he : fs.find? k = some e := hh
    rw [Target.location, he, Option.some.injEq] at hf
    exact tidy.ne_link hp ho k target (hf ▸ ht)

/-- where the path of a declaration leads, unless to a directory, is its place -/
theorem Layout.hasPlace_of_resolve (L : Layout settings fs root l paths) (hp : p ∈ paths)
    (ho : outputPath p settings = .ok o) {t : Target} (ht : fs.resolve .entry o.toText = .ok t)
    (hd : t.isDirectory = false) : HasPlace settings fs p t.location := by
  obtain ⟨d, m, -, -, hlast, h1, h2⟩ := resolve_last L.wf.grounded (L.starts hp ho) (L.endsOpen hp ho) ht hd
  refine ⟨o, ho, ?_, t, ht, hd, rfl⟩
  simp only [endsNameless, hlast, Bool.or_eq_false_iff, beq_eq_false_iff_ne, ne_eq]
  exact ⟨h1, h2⟩

/-! ## Descriptors -/

/-- a listed descriptor is found where it was listed, unless its path is too long -/
theorem Layout.resolve_descriptor (L : Layout settings fs root l paths) {dirs : List Text} {n : Text}
    (h : Listed fs root l settings.descriptorSuffix p dirs n) :
    fs.resolve .target p.toText = .error .nameTooLong ∨
      ∃ content mode, fs.resolve .target p.toText = .ok (.entry (l ++ dirs ++ [n]) (.file content mode)) := by
  obtain ⟨content, mode, hf⟩ := h.file
  have g := L.wf.grounded
  have hd : fs.HoldsDown l dirs := L.wf.holdsDown hf
  obtain ⟨h0, h1, h2, h3, h4⟩ := isEntryName_iff.1 (L.wf.name_ok hf (n := n) (by simp))
  have hplain : Path.IsPlain n := ⟨h0, h1, h2⟩
  obtain ⟨links, hr⟩ := L.leads.resolve g
  have hpath : p = ⟨root.root, root.names ++ dirs ++ [n]⟩ := by rw [h.path, descend, List.append_assoc]
  have hlink : ∀ target, fs.find? (l ++ dirs ++ [n]) ≠ some (.link target) := fun target => by rw [hf]; simp
  rw [hpath, hr .target dirs n hd hplain.last.1 hplain.last.2, Path.stepsOf_plain hplain,
    followLinks_name g (hd.1 dirs List.prefix_rfl) h2 h3 (Or.inr hlink), if_neg (Nat.not_lt.2 h4), hf]
  split_ifs
  · exact Or.inl rfl
  · exact Or.inr ⟨content, mode, rfl⟩

/-- no declaration goes to a descriptor -/
theorem Layout.descriptor_not_mem (L : Layout settings fs root l paths) (sep : Separate settings)
    (known : ∀ k ∈ places, ∃ q ∈ paths, HasPlace settings fs q k) {dirs : List Text} {n : Text}
    (hn : Listed fs root l settings.descriptorSuffix p dirs n) : l ++ dirs ++ [n] ∉ places := by
  intro hm
  obtain ⟨q, hq, hk⟩ := known _ hm
  obtain ⟨dirs', n', hn'⟩ := L.listed q hq
  obtain ⟨-, hname⟩ := List.append_inj' (L.hasPlace hn' hk).1 rfl
  have hends := (L.endsWith_place_iff hn' hk).trans (sep.outputName n')
  rw [← List.singleton_injective hname, hn.suffixed] at hends
  cases hends

/-- **A descriptor has the declaration that it had at first,** whatever declarations are written. -/
theorem Layout.declarationAt_eq (L : Layout settings fs root l paths) (tidy : Tidy settings fs paths)
    (sep : Separate settings) (hp : p ∈ paths) (h : AgreeOff places fs cur)
    (known : ∀ k ∈ places, ∃ q ∈ paths, HasPlace settings fs q k) : declarationAt cur p = declarationAt fs p := by
  obtain ⟨dirs, n, hn⟩ := L.listed p hp
  have hs : fs.Starts p.toText := by
    rw [hn.path]
    exact L.leads.starts_below _
  have hsame : cur.resolve .target p.toText = fs.resolve .target p.toText := by
    rcases resolve_agrees h L.wf.grounded .target hs with ⟨he, -⟩ | ⟨m, hm, way, -, hr, -⟩
    · exact he
    · obtain ⟨q, hq, hk⟩ := known m hm
      have hr := hr (Or.inl (tidy.find?_ne_link L hq hk))
      rcases L.resolve_descriptor hn with he | ⟨content, mode, he⟩
      · rw [he] at hr
        cases way <;> cases hf : fs.find? m <;> simp [hf, meet] at hr
      · have hloc : l ++ dirs ++ [n] = m := location_of_meet (hr.symm.trans he)
        exact absurd (hloc ▸ hm) (L.descriptor_not_mem sep known hn)
  have hload : Descriptor.load cur p = Descriptor.load fs p := by
    simp only [Descriptor.load, readFile_congr hsame]
  simp only [declarationAt, hload]

/-! ## Declarations -/

/-- two refusals, of whatever cause, or the same -/
def Matches (r r' : Except OsCause Target) : Prop := r' = r ∨ ∃ c c', r = .error c ∧ r' = .error c'

/-- the path of a declaration leads where it led at first, or is refused as it was at first -/
theorem Before.resolve_output (L : Layout settings fs root l paths) (tidy : Tidy settings fs paths) (hp : p ∈ paths)
    (ho : outputPath p settings = .ok o) (h : Before settings fs paths p places cur) {purpose : Purpose}
    (hpurpose : fs.resolve purpose o.toText = fs.resolve .entry o.toText) :
    Matches (fs.resolve purpose o.toText) (cur.resolve purpose o.toText) := by
  rcases resolve_agrees h.agree L.wf.grounded purpose (L.starts hp ho) with ⟨he, -⟩ | ⟨m, hm, way, he, hr, -⟩
  · exact Or.inl he
  · obtain ⟨q, hq, hk⟩ := h.known m hm
    have hr := hr (Or.inl (tidy.find?_ne_link L hq hk))
    -- a way to nothing or to a file at the place would make it the place of this declaration
    have none_here : ∀ t, meet m (fs.find? m) way ≠ .ok t := by
      intro t ht
      have hloc := location_of_meet ht
      have hd : t.isDirectory = false := by
        have hb := h.agree.before m hm
        cases way <;> cases hf : fs.find? m <;> simp only [hf, meet, Except.ok.injEq, reduceCtorEq] at ht <;> subst ht
        · rfl
        · simpa [FileSystem.holdsDirectory, hf, Target.isDirectory] using hb
        · rfl
      have hres : fs.resolve .entry o.toText = .ok t := by rw [← hpurpose, hr, ht]
      exact h.free m (hloc ▸ L.hasPlace_of_resolve hp ho hres hd) hm
    have hx : ∃ c, meet m (fs.find? m) way = .error c := by
      cases hx : meet m (fs.find? m) way with
      | ok t => exact absurd hx (none_here t)
      | error c => exact ⟨c, rfl⟩
    obtain ⟨c, hc⟩ := hx
    have hy : ∃ c', meet m (cur.find? m) way = .error c' := by
      cases way with
      | last => cases hf : fs.find? m <;> simp [hf, meet] at hc
      | opened =>
        cases hm' : cur.find? m with
        | none => exact absurd hm' (h.stand m hm)
        | some e => exact ⟨_, rfl⟩
      | onward => cases cur.find? m <;> exact ⟨_, rfl⟩
    obtain ⟨c', hc'⟩ := hy
    exact Or.inr ⟨c, c', hr.trans hc, he.trans hc'⟩

theorem hasContent_of_error (hu : unusable o.toText = none) {cause : OsCause}
    (h : fs.resolve .target o.toText = .error cause) : hasContent fs o text = .ok false := by
  simp [hasContent, readFile_of_error hu h]

/-- **The file beside a descriptor holds what it held at first.** -/
theorem Before.hasContent_eq (L : Layout settings fs root l paths) (tidy : Tidy settings fs paths) (hp : p ∈ paths)
    (ho : outputPath p settings = .ok o) (h : Before settings fs paths p places cur) (text : Text) :
    hasContent cur o text = hasContent fs o text := by
  cases hu : unusable o.toText with
  | some c => rw [hasContent_of_unusable hu, hasContent_of_unusable hu]
  | none =>
    rcases h.resolve_output L tidy hp ho (resolve_target (tidy.ne_link hp ho)) with he | ⟨c, c', hc, hc'⟩
    · simp only [hasContent, readFile_congr he]
    · rw [hasContent_of_error hu hc, hasContent_of_error hu hc']

theorem Before.renamesTo_iff (L : Layout settings fs root l paths) (tidy : Tidy settings fs paths) (hp : p ∈ paths)
    (ho : outputPath p settings = .ok o) (h : Before settings fs paths p places cur) (k : Location) :
    RenamesTo cur o k ↔ RenamesTo fs o k := by
  constructor
  · exact renamesTo_of_agreeOff h.agree L.wf.grounded (L.isProper hp ho) (L.starts hp ho)
  · rintro ⟨hn, t, ht, hd, rfl⟩
    rcases h.resolve_output L tidy hp ho rfl with he | ⟨c, c', hc, -⟩
    · exact ⟨hn, t, by rw [he, ht], hd, rfl⟩
    · rw [ht] at hc; cases hc

/-! ## Temporary files -/

/-- where a path that ends in a name leads at first, and where once declarations are written: to the same, to what had
its name already, through a file where nothing was, or to a new declaration -/
inductive Shifts (settings : Settings) (fs : FileSystem) (paths : List Path) :
    Except OsCause Target → Except OsCause Target → Prop
  | same (r : Except OsCause Target) : Shifts settings fs paths r r
  | replaced (m : Location) (d e : Entry) : Shifts settings fs paths (.ok (.entry m d)) (.ok (.entry m e))
  | obstructed : Shifts settings fs paths (.error .noEntry) (.error .notDirectory)
  | filled {q : Path} {m : Location} (e : Entry) (hq : q ∈ paths) (hk : HasPlace settings fs q m) :
      Shifts settings fs paths (.ok (.absent m)) (.ok (.entry m e))

theorem Before.resolve_shifts (L : Layout settings fs root l paths) (tidy : Tidy settings fs paths)
    (h : Before settings fs paths p places cur) {t : Text} (hs : fs.Starts t) (ho : endsOpen t = false) :
    Shifts settings fs paths (fs.resolve .entry t) (cur.resolve .entry t) := by
  rcases resolve_agrees h.agree L.wf.grounded .entry hs with ⟨he, -⟩ | ⟨m, hm, way, he, hr, hopen⟩
  · rw [he]
    exact .same _
  · obtain ⟨q, hq, hk⟩ := h.known m hm
    obtain ⟨e, hc⟩ := Option.ne_none_iff_exists'.1 (h.stand m hm)
    rw [he, hr (Or.inl (tidy.find?_ne_link L hq hk)), hc]
    cases way with
    | last =>
      cases fs.find? m with
      | none => exact .filled e hq hk
      | some d => exact .replaced m d e
    | opened => simp [ho] at hopen
    | onward =>
      cases fs.find? m with
      | none => exact .obstructed
      | some d => exact .same _

/-- the path of a temporary file does not lead to a new declaration -/
theorem Before.resolve_temporary (L : Layout settings fs root l paths) (tidy : Tidy settings fs paths) (hp : p ∈ paths)
    (ho : outputPath p settings = .ok o) (h : Before settings fs paths p places cur) {t : Text}
    (ht : temporaryPath fs o = .ok t) (hu : unusable t = none) :
    cur.resolve .entry t = fs.resolve .entry t ∨
      (∃ m d e, fs.resolve .entry t = .ok (.entry m d) ∧ cur.resolve .entry t = .ok (.entry m e)) ∨
      fs.resolve .entry t = .error .noEntry ∧ cur.resolve .entry t = .error .notDirectory := by
  have hs := (starts_of_temporaryPath L.wf.grounded (L.isProper hp ho) ht).1
  have hshift := h.resolve_shifts L tidy hs (endsOpen_temporaryPath ht)
  generalize hfirst : fs.resolve .entry t = first at hshift
  generalize cur.resolve .entry t = now at hshift
  cases hshift with
  | same => exact Or.inl rfl
  | replaced m d e => exact Or.inr (Or.inl ⟨m, d, e, rfl, rfl⟩)
  | obstructed => exact Or.inr (Or.inr ⟨rfl, rfl⟩)
  | @filled q m e hq hk =>
    have htemp : IsTemporary fs o m := ⟨t, ht, by simp [locate, hu, hfirst]⟩
    exact absurd hk (tidy.apart p hp q hq o m ho htemp)

/-- the search for a free name ends where it ended at first -/
theorem Before.temporaryPath_eq (L : Layout settings fs root l paths) (tidy : Tidy settings fs paths) (hp : p ∈ paths)
    (ho : outputPath p settings = .ok o) (h : Before settings fs paths p places cur) :
    temporaryPath cur o = temporaryPath fs o := by
  have hdirectory : cur.absolute o.parent = fs.absolute o.parent := by
    simp only [absolute, workingDirectory, h.agree.cwd]
  cases hd : fs.absolute o.parent with
  | error c => simp only [temporaryPath, hdirectory, hd, bind, Except.bind]
  | ok d =>
    rw [temporaryPath_of (hdirectory.trans hd), temporaryPath_of hd, h.agree.choices]
    refine congrArg Except.ok (lastTried_congr (fun u hu ht => ?_) fun hfree => ?_)
    · -- what has a name keeps it
      obtain ⟨draw, rfl⟩ : ∃ draw, u = candidate d.normalize o.name draw := by
        rw [← List.map_cons, List.mem_map] at hu
        exact hu.imp fun draw hdraw => hdraw.2.symm
      obtain ⟨hu, k, e, he⟩ := isTaken_iff.1 ht
      have hs := (starts_of_absolute L.wf.grounded (L.isProper hp ho) hd draw).1
      have hshift := h.resolve_shifts L tidy hs (endsOpen_candidate d.normalize o.name draw)
      rw [he] at hshift
      generalize hnow : cur.resolve .entry (candidate d.normalize o.name draw) = now at hshift
      cases hshift with
      | same => exact isTaken_iff.2 ⟨hu, k, e, hnow⟩
      | replaced m d e => exact isTaken_iff.2 ⟨hu, k, e, hnow⟩
    · -- no declaration takes the name at which the search ended
      rw [Bool.eq_false_iff] at hfree ⊢
      intro hnow
      obtain ⟨hu, k, e, he⟩ := isTaken_iff.1 hnow
      rcases h.resolve_temporary L tidy hp ho (temporaryPath_of hd) hu with hsame | ⟨m, d, e, hfirst, -⟩ | ⟨-, hcur⟩
      · exact hfree (isTaken_iff.2 ⟨hu, k, e, hsame.symm.trans he⟩)
      · exact hfree (isTaken_iff.2 ⟨hu, m, d, hfirst⟩)
      · cases he.symm.trans hcur

/-- a temporary file can be made where it could at first -/
theorem Before.isTemporary_iff (L : Layout settings fs root l paths) (tidy : Tidy settings fs paths) (hp : p ∈ paths)
    (ho : outputPath p settings = .ok o) (h : Before settings fs paths p places cur) (k : Location) :
    IsTemporary cur o k ↔ IsTemporary fs o k := by
  have hlocate : ∀ (fs' : FileSystem) t, fs'.locate .entry t = .ok (.absent k) ↔
      unusable t = none ∧ fs'.resolve .entry t = .ok (.absent k) := fun fs' t =>
    ⟨locate_eq_ok, fun h => by simp [locate, h.1, h.2]⟩
  have hresolve : ∀ t, temporaryPath fs o = .ok t → unusable t = none →
      (cur.resolve .entry t = .ok (.absent k) ↔ fs.resolve .entry t = .ok (.absent k)) := by
    intro t ht hu
    rcases h.resolve_temporary L tidy hp ho ht hu with hsame | ⟨m, d, e, hfirst, hcur⟩ | ⟨hfirst, hcur⟩
    · rw [hsame]
    · simp [hfirst, hcur]
    · simp [hfirst, hcur]
  simp only [IsTemporary, Makes, h.temporaryPath_eq L tidy hp ho, hlocate]
  constructor
  · rintro ⟨t, ht, hu, hr⟩
    exact ⟨t, ht, hu, (hresolve t ht hu).1 hr⟩
  · rintro ⟨t, ht, hu, hr⟩
    exact ⟨t, ht, hu, (hresolve t ht hu).2 hr⟩

/-! ## Replacements -/

/-- **A declaration is replaced exactly when it could be at first.** -/
theorem Before.replace_ok_iff (L : Layout settings fs root l paths) (tidy : Tidy settings fs paths) (hp : p ∈ paths)
    (ho : outputPath p settings = .ok o) (h : Before settings fs paths p places cur) (text : Text) :
    (cur.replace o text).2 = .ok () ↔ (fs.replace o text).2 = .ok () := by
  have hproper := L.isProper hp ho
  have hlink : ∀ k target, cur.resolve .entry o.toText ≠ .ok (.entry k (.link target)) := by
    intro k target hk
    rcases h.resolve_output L tidy hp ho rfl with he | ⟨c, c', -, hc'⟩
    · exact tidy.ne_link hp ho k target (he ▸ hk)
    · rw [hk] at hc'; cases hc'
  rw [replace_ok_iff_of_no_link (h.agree.grounded L.wf.grounded) hproper hlink,
    replace_ok_iff_of_no_link L.wf.grounded hproper (tidy.ne_link hp ho)]
  simp only [h.isTemporary_iff L tidy hp ho, h.renamesTo_iff L tidy hp ho]

theorem Before.breaks (L : Layout settings fs root l paths) (tidy : Tidy settings fs paths) (hp : p ∈ paths)
    (ho : outputPath p settings = .ok o) (h : Before settings fs paths p places cur) {c : Crash}
    (hb : Breaks fs o text c) : Breaks cur o text c := by
  cases hb with
  | temporary ht hu => exact .temporary ((h.temporaryPath_eq L tidy hp ho).trans ht) hu
  | content hl ht => exact .content ((h.isTemporary_iff L tidy hp ho _).2 hl) ht
  | target hl ht hu => exact .target ((h.isTemporary_iff L tidy hp ho _).2 hl) ht hu

/-- what is refused was refused at first -/
theorem Before.replace_refused (L : Layout settings fs root l paths) (tidy : Tidy settings fs paths) (hp : p ∈ paths)
    (ho : outputPath p settings = .ok o) (h : Before settings fs paths p places cur) {e : OsError}
    (hw : (cur.replace o text).2 = .error (.os e)) : ∃ e', (fs.replace o text).2 = .error (.os e') := by
  have hproper := L.isProper hp ho
  cases hfs : (fs.replace o text).2 with
  | ok => rw [(h.replace_ok_iff L tidy hp ho text).2 hfs] at hw; cases hw
  | error c =>
    by_cases hos : ∃ e', c = .os e'
    · obtain ⟨e', rfl⟩ := hos
      exact ⟨e', rfl⟩
    · have hb := (replace_crash_iff L.wf.grounded hproper).1 ⟨hfs, fun e' he => hos ⟨e', he⟩⟩
      obtain ⟨hcur, -⟩ := (replace_crash_iff (h.agree.grounded L.wf.grounded) hproper).2 (h.breaks L tidy hp ho hb)
      rw [hw, Except.error.injEq] at hcur
      exact absurd ⟨e, hcur.symm⟩ hos

end Generate
end Typings
