/-
Turns apart: the declarations of a run go to different places, so no turn undoes what another has done.

- `Layout`: what a walk has listed, each descriptor in its directory under its name.
- `Layout.place_injective`: different descriptors have their declarations at different places.
- `Layout.turn_cases`: a turn leaves all as it is, or puts a new file at the place of its declaration.
- `Layout.trail_apart`: every descriptor has its turn in a file system that agrees with the first one off the places
  of other declarations, and what it has written then stays.
- `trail_of_run`: a run that ends early has done its first turns, and nothing else.
-/
import Typings.Proofs.FileSystem.Undisturbed
import Typings.Proofs.Generate.Output
import Typings.Proofs.Generate.Turns

namespace Typings.Generate

open FileSystem Replace

/-! ## Layouts -/

/-- a declaration goes to a place, where something can be renamed to -/
def HasPlace (settings : Settings) (fs : FileSystem) (p : Path) (k : Location) : Prop :=
  ∃ o, outputPath p settings = .ok o ∧ RenamesTo fs o k

/-- what a walk has listed: descriptors below the directory that a path leads to, each once -/
structure Layout (settings : Settings) (fs : FileSystem) (root : Path) (l : Location) (paths : List Path) : Prop where
  wf : fs.WellFormed
  leads : LeadsTo fs root l
  suffix : settings.descriptorSuffix ≠ []
  listed : ∀ p ∈ paths, ∃ dirs n, Listed fs root l settings.descriptorSuffix p dirs n
  nodup : paths.Nodup

variable {settings : Settings} {fs : FileSystem} {root : Path} {l : Location} {paths : List Path} {dryRun : Bool}

/-- what is picked below a location is listed -/
theorem listed_of_mem (wf : fs.WellFormed) {suffix : Text} {p : Path}
    (hp : p ∈ (fs.suffixedBelow l suffix).map (descend root)) : ∃ dirs n, Listed fs root l suffix p dirs n := by
  obtain ⟨ns, hns, rfl⟩ := List.mem_map.1 hp
  obtain ⟨hmem, hsuf⟩ := List.mem_filter.1 hns
  obtain ⟨hne, content, mode, hf⟩ := (mem_filesBelow_iff wf).1 hmem
  obtain ⟨dirs, n, rfl⟩ := (List.eq_nil_or_concat ns).resolve_left hne
  rw [List.concat_eq_append, ← List.append_assoc] at hf
  exact ⟨dirs, n, by rw [List.concat_eq_append], ⟨content, mode, hf⟩, by simpa using hsuf⟩

theorem layout_of_walk (wf : fs.WellFormed) (hs : settings.descriptorSuffix ≠ []) {t : Text}
    (h : fs.walkSuffix (Path.ofText t) settings.descriptorSuffix = .ok paths) :
    ∃ root l, fs.absolute (Path.ofText t) = .ok root ∧
      paths = (fs.suffixedBelow l settings.descriptorSuffix).map (descend root) ∧ Layout settings fs root l paths := by
  obtain ⟨root, l, ha, hl, rfl⟩ := walkSuffix_eq_ok wf h
  refine ⟨root, l, ha, rfl, wf, hl, hs, fun p hp => listed_of_mem wf hp, ?_⟩
  refine List.Nodup.map (descend_injective root) (List.Nodup.filter _ ?_)
  refine List.nodup_iff_pairwise_ne.2 ((filesBelow_sorted wf l).imp fun {a b} h hab => ?_)
  rw [hab, Location.before_irrefl] at h
  cases h

theorem Listed.slash_not_mem (wf : fs.WellFormed) {p : Path} {dirs : List Text} {n : Text} {suffix : Text}
    (h : Listed fs root l suffix p dirs n) : Path.slash ∉ n := by
  obtain ⟨content, mode, hf⟩ := h.file
  exact (isEntryName_iff.1 (wf.name_ok hf (by simp))).2.1

/-- the place of a listed descriptor's declaration -/
theorem Layout.hasPlace (L : Layout settings fs root l paths) {p : Path} {dirs : List Text} {n : Text}
    (h : Listed fs root l settings.descriptorSuffix p dirs n) {k : Location} (hk : HasPlace settings fs p k) :
    k = l ++ dirs ++ [placeName settings n] ∧ Path.isName (outputName settings n) = true ∧
      placeName settings n = Text.lastPiece Path.slash (outputName settings n) := by
  obtain ⟨o, ho, hr⟩ := hk
  obtain ⟨h1, h2⟩ := place_of_renamesTo L.wf L.leads h ho hr
  exact ⟨h1, (outputPath_eq_ok h ho).1, h2⟩

/-- **Different descriptors have their declarations at different places.** -/
theorem Layout.place_injective (L : Layout settings fs root l paths) {p q : Path} (hp : p ∈ paths) (hq : q ∈ paths)
    {k : Location} (hpk : HasPlace settings fs p k) (hqk : HasPlace settings fs q k) : p = q := by
  obtain ⟨dirs, m, hm⟩ := L.listed p hp
  obtain ⟨dirs', n, hn⟩ := L.listed q hq
  obtain ⟨hk, hmo, -⟩ := L.hasPlace hm hpk
  obtain ⟨hk', hno, -⟩ := L.hasPlace hn hqk
  obtain ⟨hd, hname⟩ := List.append_inj' (hk.symm.trans hk') rfl
  have hmn : m = n := placeName_injective L.suffix (hm.slash_not_mem L.wf) (hn.slash_not_mem L.wf) hm.suffixed
    hn.suffixed hmo hno (List.singleton_injective hname)
  rw [hm.path, hn.path, List.append_cancel_left hd, hmn]

theorem Layout.starts (L : Layout settings fs root l paths) {p o : Path} (hp : p ∈ paths)
    (ho : outputPath p settings = .ok o) : fs.Starts o.toText := by
  obtain ⟨dirs, n, h⟩ := L.listed p hp
  obtain ⟨-, rfl⟩ := outputPath_eq_ok h ho
  exact L.leads.starts_below _

theorem Layout.isProper (L : Layout settings fs root l paths) {p o : Path} (hp : p ∈ paths)
    (ho : outputPath p settings = .ok o) : o.IsProper := by
  obtain ⟨dirs, n, h⟩ := L.listed p hp
  exact outputPath_isProper L.leads L.wf h ho

theorem Layout.endsOpen (L : Layout settings fs root l paths) {p o : Path} (hp : p ∈ paths)
    (ho : outputPath p settings = .ok o) : FileSystem.endsOpen o.toText = false := by
  obtain ⟨dirs, n, h⟩ := L.listed p hp
  have hproper := L.isProper hp ho
  obtain ⟨-, rfl⟩ := outputPath_eq_ok h ho
  exact Path.endsOpen_toText hproper (by simp)

theorem HasPlace.holdsDirectory (L : Layout settings fs root l paths) {p : Path} (hp : p ∈ paths) {k : Location}
    (hk : HasPlace settings fs p k) : fs.holdsDirectory k = false := by
  obtain ⟨o, ho, hr⟩ := hk
  exact hr.holdsDirectory L.wf.grounded (L.starts hp ho)

/-! ## Single turns -/

variable {places : Set Location} {cur : FileSystem}

/-- where a file can be renamed after changes, it could have been renamed before -/
theorem renamesTo_of_agreeOff (h : AgreeOff places fs cur) (g : Grounded fs) {o : Path} (hp : o.IsProper)
    (hs : fs.Starts o.toText) {k : Location} (hk : RenamesTo cur o k) : RenamesTo fs o k := by
  obtain ⟨hn, t, ht, hd, rfl⟩ := hk
  rcases resolve_agrees h g .entry hs with ⟨he, -⟩ | ⟨m, hm, way, he, hr, ho⟩
  · exact ⟨hn, t, by rw [← he, ht], hd, rfl⟩
  · have hloc : t.location = m := location_of_meet (he.symm.trans ht)
    have hne : o.names ≠ [] := fun h => by simp [endsNameless_of_no_names hp h] at hn
    cases way with
    | last =>
      have hr := hr (Or.inr ⟨rfl, rfl⟩)
      have hb := h.before m hm
      refine ⟨hn, .at m (fs.find? m), ?_, ?_, by rw [Target.location_at, hloc]⟩
      · rw [hr]; cases fs.find? m <;> rfl
      · cases hf : fs.find? m with
        | none => rfl
        | some e => simpa [FileSystem.holdsDirectory, hf, Target.at, Target.isDirectory] using hb
    | opened => simp [Path.endsOpen_toText hp hne] at ho
    | onward => rw [he] at ht; cases hf : cur.find? m <;> simp [hf, meet] at ht

/-- what the turn of a descriptor writes: a new file at the place of its declaration -/
structure Writes (settings : Settings) (fs cur : FileSystem) (p : Path) (text : Text) (k : Location) (octets : Bytes)
    (mode : Nat) : Prop where
  declared : declarationAt cur p = .ok text
  encoded : Utf8.encode text = .ok octets
  place : HasPlace settings fs p k
  differs : ∃ o, outputPath p settings = .ok o ∧ hasContent cur o text = .ok false ∧ RenamesTo cur o k

/-- **A turn** leaves all as it is, or writes a declaration. -/
theorem Layout.turn_cases (L : Layout settings fs root l paths) (h : AgreeOff places fs cur) {p : Path}
    (hp : p ∈ paths) {x : Except Ending FileResult} {mid : FileSystem} (ht : Turn settings dryRun cur p x mid) :
    (mid = cur ∧ ∀ r, x = .ok r → r.status ≠ .written) ∨
      ∃ r text k octets mode, x = .ok r ∧ r.status = .written ∧ Writes settings fs cur p text k octets mode ∧
        mid = cur.put k (.file octets mode) := by
  have g := h.grounded L.wf.grounded
  have kept : ∀ {o : Path} {text : Text} {c : Crash}, outputPath p settings = .ok o →
      (cur.replace o text).2 = .error c → (cur.replace o text).1 = cur := fun ho hw =>
    replace_of_error g (L.isProper hp ho) hw
  cases ht with
  | done hpr =>
    cases hpr with
    | planned => exact Or.inl ⟨rfl, fun r hr => by cases hr; simp [result]⟩
    | unchanged => exact Or.inl ⟨rfl, fun r hr => by cases hr; simp [result]⟩
    | @written text o hdecl ho hd hc hw =>
      have hproper := L.isProper hp ho
      obtain ⟨k, octets, mode, hk, -, hnew⟩ := replaced_renamesTo g hproper hw
      refine Or.inr ⟨_, text, k, octets, mode, rfl, rfl, ⟨hdecl, hnew.content, ⟨o, ho, ?_⟩, o, ho, hc, hk⟩,
        hnew.changed⟩
      exact renamesTo_of_agreeOff h L.wf.grounded hproper (L.starts hp ho) hk
  | skipped hf hpr =>
    cases hpr with
    | undeclared => exact Or.inl ⟨rfl, fun r hr => by cases hr; simp [failedResult]⟩
    | refused _ ho _ _ hw => exact Or.inl ⟨kept ho hw, fun r hr => by cases hr; simp [failedResult]⟩
  | stopped hf hpr =>
    cases hpr with
    | undeclared => exact Or.inl ⟨rfl, fun r hr => by cases hr⟩
    | refused _ ho _ _ hw => exact Or.inl ⟨kept ho hw, fun r hr => by cases hr⟩
  | crashed hpr =>
    cases hpr with
    | undeclared => exact Or.inl ⟨rfl, fun r hr => by cases hr⟩
    | unnamed => exact Or.inl ⟨rfl, fun r hr => by cases hr⟩
    | unread => exact Or.inl ⟨rfl, fun r hr => by cases hr⟩
    | unwritten _ ho _ _ hw => exact Or.inl ⟨kept ho hw, fun r hr => by cases hr⟩

/-- a turn that ends the run leaves all as it is -/
theorem Layout.turn_ended (L : Layout settings fs root l paths) (h : AgreeOff places fs cur) {p : Path}
    (hp : p ∈ paths) {e : Ending} {mid : FileSystem} (ht : Turn settings dryRun cur p (.error e) mid) : mid = cur := by
  rcases L.turn_cases h hp ht with ⟨hsame, -⟩ | ⟨r, _, _, _, _, hx, -⟩
  · exact hsame
  · cases hx

/-! ## Runs of turns -/

theorem HasPlace.unique {p : Path} {j k : Location} (hj : HasPlace settings fs p j) (hk : HasPlace settings fs p k) :
    j = k := by
  obtain ⟨o, ho, -, t, ht, -, rfl⟩ := hj
  obtain ⟨o', ho', -, u, hu, -, rfl⟩ := hk
  obtain rfl : o = o' := Except.ok.inj (ho.symm.trans ho')
  rw [Except.ok.inj (ht.symm.trans hu)]

/-- the places of the declarations that results say are written -/
def writtenPlaces (settings : Settings) (fs : FileSystem) (xs : List (Path × FileResult)) : Set Location :=
  {k | ∃ x ∈ xs, x.2.status = .written ∧ HasPlace settings fs x.1 k}

/-- a new file at a place more -/
theorem agreeOff_put_union (h : AgreeOff places fs cur) {k : Location} (hk : fs.holdsDirectory k = false)
    (octets : Bytes) (mode : Nat) : AgreeOff (places ∪ {k}) fs (cur.put k (.file octets mode)) where
  same j hj := by
    simp only [Set.mem_union, Set.mem_singleton_iff, not_or] at hj
    rw [find?_put_of_ne cur hj.2, h.same j hj.1]
  before j hj := by
    rcases hj with hj | rfl
    · exact h.before j hj
    · exact hk
  after j hj e he := by
    by_cases hjk : j = k
    · subst hjk
      rw [find?_put_self cur (ne_nil_of_no_directory hk), Option.some.injEq] at he
      subst he
      exact ⟨rfl, by simp⟩
    · rw [find?_put_of_ne cur hjk] at he
      exact h.after j (hj.resolve_right hjk) e he
  cwd := h.cwd
  choices := h.choices

/-- the file system before the turn of a descriptor: it differs from the first one at places of other declarations
only, and something stands there -/
structure Before (settings : Settings) (fs : FileSystem) (paths : List Path) (p : Path) (places : Set Location)
    (cur : FileSystem) : Prop where
  agree : AgreeOff places fs cur
  known : ∀ k ∈ places, ∃ q ∈ paths, HasPlace settings fs q k
  stand : ∀ k ∈ places, cur.find? k ≠ none
  free : ∀ k, HasPlace settings fs p k → k ∉ places

/-- the turn of a descriptor within a run from one file system to another: its own declaration stays as it leaves it -/
structure TookTurn (settings : Settings) (dryRun : Bool) (fs fs' : FileSystem) (paths : List Path) (p : Path)
    (r : FileResult) (places : Set Location) (cur mid : FileSystem) : Prop where
  before : Before settings fs paths p places cur
  turn : Turn settings dryRun cur p (.ok r) mid
  stays : ∀ k, HasPlace settings fs p k → fs'.find? k = mid.find? k

/-- **Turns do not disturb each other.** -/
theorem Layout.trail_apart (L : Layout settings fs root l paths) {ps : List Path} {rs : List FileResult}
    {fs' : FileSystem} (t : Trail settings dryRun cur ps rs fs') (hps : ∀ p ∈ ps, p ∈ paths) (hnd : ps.Nodup)
    (h : AgreeOff places fs cur) (known : ∀ k ∈ places, ∃ q ∈ paths, HasPlace settings fs q k)
    (stand : ∀ k ∈ places, cur.find? k ≠ none)
    (free : ∀ p ∈ ps, ∀ k, HasPlace settings fs p k → k ∉ places) :
    AgreeOff (places ∪ writtenPlaces settings fs (ps.zip rs)) fs fs' ∧
      (∀ k, (∀ p ∈ ps, ¬ HasPlace settings fs p k) → fs'.find? k = cur.find? k) ∧
      List.Forall₂ (fun p r => ∃ places cur mid, TookTurn settings dryRun fs fs' paths p r places cur mid) ps rs := by
  induction t generalizing places with
  | nil fs0 =>
    refine ⟨?_, fun _ _ => rfl, .nil⟩
    have : places ∪ writtenPlaces settings fs (List.zip [] []) = places := by simp [writtenPlaces]
    rwa [this]
  | @cons cur mid fs' p r ps rs ht t ih =>
    have hp : p ∈ paths := hps p List.mem_cons_self
    obtain ⟨hnp, hnd⟩ := List.nodup_cons.1 hnd
    have hps' : ∀ q ∈ ps, q ∈ paths := fun q hq => hps q (List.mem_cons_of_mem _ hq)
    have other : ∀ q ∈ ps, ∀ k, HasPlace settings fs p k → ¬ HasPlace settings fs q k := fun q hq k hpk hqk =>
      hnp (L.place_injective hp (hps' q hq) hpk hqk ▸ hq)
    rcases L.turn_cases h hp ht with ⟨rfl, hr⟩ | ⟨r', text, k, octets, mode, hx, hr, hw, rfl⟩
    · obtain ⟨h1, h2, h3⟩ := ih hps' hnd h known stand fun q hq => free q (List.mem_cons_of_mem _ hq)
      have hsame : writtenPlaces settings fs ((p, r) :: ps.zip rs) = writtenPlaces settings fs (ps.zip rs) := by
        ext k
        simp [writtenPlaces, hr r rfl]
      refine ⟨by rw [List.zip_cons_cons, hsame]; exact h1, fun k hk => ?_, .cons ?_ h3⟩
      · exact h2 k fun q hq => hk q (List.mem_cons_of_mem _ hq)
      · exact ⟨places, mid, mid, ⟨h, known, stand, free p List.mem_cons_self⟩, ht, fun k hk =>
          h2 k fun q hq => other q hq k hk⟩
    · obtain rfl : r = r' := Except.ok.inj hx
      have hdir := hw.place.holdsDirectory L hp
      have known' : ∀ j ∈ places ∪ {k}, ∃ q ∈ paths, HasPlace settings fs q j := by
        rintro j (hj | rfl)
        · exact known j hj
        · exact ⟨p, hp, hw.place⟩
      have stand' : ∀ j ∈ places ∪ {k}, (cur.put k (.file octets mode)).find? j ≠ none := by
        intro j hj
        by_cases hjk : j = k
        · rw [hjk, find?_put_self cur (ne_nil_of_no_directory hdir)]
          simp
        · rw [find?_put_of_ne cur hjk]
          exact stand j (hj.resolve_right hjk)
      have free' : ∀ q ∈ ps, ∀ j, HasPlace settings fs q j → j ∉ places ∪ {k} := by
        rintro q hq j hj (hm | rfl)
        · exact free q (List.mem_cons_of_mem _ hq) j hj hm
        · exact other q hq j hw.place hj
      obtain ⟨h1, h2, h3⟩ := ih hps' hnd (agreeOff_put_union h hdir octets mode) known' stand' free'
      have hsame : places ∪ writtenPlaces settings fs ((p, r) :: ps.zip rs) =
          places ∪ {k} ∪ writtenPlaces settings fs (ps.zip rs) := by
        ext j
        have hpk : HasPlace settings fs p j ↔ j = k := ⟨fun hj => hj.unique hw.place, fun hj => hj ▸ hw.place⟩
        simp [writtenPlaces, hr, hpk, or_assoc, or_left_comm]
      refine ⟨by rw [List.zip_cons_cons, hsame]; exact h1, fun j hj => ?_, .cons ?_ h3⟩
      · rw [h2 j fun q hq => hj q (List.mem_cons_of_mem _ hq)]
        refine find?_put_of_ne cur (fun hjk => hj p List.mem_cons_self ?_) _
        rw [hjk]
        exact hw.place
      · exact ⟨places, cur, _, ⟨h, known, stand, free p List.mem_cons_self⟩, ht, fun j hj =>
          h2 j fun q hq => other q hq j hj⟩

/-- the turns of the first descriptors of a run -/
theorem Layout.trail_of_prefix (L : Layout settings fs root l paths) {ps : List Path} {rs : List FileResult}
    {fs' : FileSystem} (t : Trail settings dryRun fs ps rs fs') (hps : ps <+: paths) :
    AgreeOff (writtenPlaces settings fs (ps.zip rs)) fs fs' ∧
      List.Forall₂ (fun p r => ∃ places cur mid, TookTurn settings dryRun fs fs' paths p r places cur mid) ps rs := by
  obtain ⟨hagree, -, hturns⟩ := L.trail_apart t (fun p hp => hps.subset hp) (hps.sublist.nodup L.nodup)
    (AgreeOff.refl fs) (by simp) (by simp) (by simp)
  rw [Set.empty_union] at hagree
  exact ⟨hagree, hturns⟩

/-- **However a run ends,** it has gone through the first of its descriptors, and has done nothing else. -/
theorem trail_of_run (wf : fs.WellFormed) (hs : settings.descriptorSuffix ≠ []) (dryRun : Bool)
    (interrupt : Option Nat) (notices : List Notice) :
    ((∃ t, fs.walkSuffix (Path.ofText settings.sourceDir) settings.descriptorSuffix = .error t) ∧
      ((run settings dryRun interrupt).run ⟨fs, notices⟩).2.fs = fs) ∨
    ∃ paths root l done rs, fs.walkSuffix (Path.ofText settings.sourceDir) settings.descriptorSuffix = .ok paths ∧
      Layout settings fs root l paths ∧ done <+: paths ∧
      Trail settings dryRun fs done rs ((run settings dryRun interrupt).run ⟨fs, notices⟩).2.fs := by
  rcases run_course settings dryRun interrupt ⟨fs, notices⟩ with ⟨t, hw, he⟩ | ⟨paths, r, hw, hc, -⟩
  · exact Or.inl ⟨⟨t, hw⟩, by rw [he]⟩
  · obtain ⟨root, l, -, -, L⟩ := layout_of_walk wf hs hw
    refine Or.inr ?_
    cases hc with
    | finished t => exact ⟨paths, root, l, _, _, hw, L, List.prefix_rfl, t⟩
    | interrupted hp _ t => exact ⟨paths, root, l, _, _, hw, L, ⟨_, hp.symm⟩, t⟩
    | ended hp t ht =>
      obtain ⟨hagree, -⟩ := L.trail_of_prefix t ⟨_, hp.symm⟩
      rw [L.turn_ended hagree (by simp [hp]) ht]
      exact ⟨paths, root, l, _, _, hw, L, ⟨_, hp.symm⟩, t⟩

end Typings.Generate
