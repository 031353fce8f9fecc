/-
Walks: what is found in a directory and below it.

The order in which a directory lists its entries is the file system's own (`choices`), and nothing here is about a
particular one.
- `walkSuffix_eq_ok`: a walk that succeeds gives the files below the directory whose names end with the suffix.
- `mem_filesBelow_iff`, `filesBelow_sorted`: these are all files there, each once, in the order of the listings.
- `LeadsTo.resolve`: a path below the directory is followed from the directory.
-/
import Typings.FileSystem.Walk
import Typings.Proofs.FileSystem.Descent

namespace Typings

theorem Location.before_append_left (o : ListingOrder) (d l a b : Location) :
    before o d (l ++ a) (l ++ b) = before o (d ++ l) a b := by
  induction l generalizing d with
  | nil => simp
  | cons n l ih => simp [before, o.irrefl, ih]

namespace FileSystem

variable {fs : FileSystem}

/-! ## Files below a location -/

/-- the names that lead from a location to the files below it, in order -/
def filesBelow (fs : FileSystem) (l : Location) : List Location :=
  (fs.below l).filterMap fun (ns, e) => match e with
    | .file _ _ => some ns
    | _ => none

theorem walkFiles_eq (root : Path) (l : Location) : fs.walkFiles root l = (fs.filesBelow l).map (descend root) := by
  simp only [walkFiles, filesBelow, List.map_filterMap]
  congr 1
  funext x
  obtain ⟨ns, e⟩ := x
  cases e <;> rfl

theorem descend_injective (root : Path) : Function.Injective (descend root) := by
  intro a b h
  simpa [descend] using h

theorem mem_below_iff {l ns : Location} {e : Entry} : (ns, e) ∈ fs.below l ↔ ns ≠ [] ∧ (l ++ ns, e) ∈ fs.entries := by
  simp only [below, List.mem_filterMap, Prod.exists]
  constructor
  · rintro ⟨k, d, hm, h⟩
    split_ifs at h with hk
    simp only [Option.some.injEq, Prod.mk.injEq] at h
    obtain ⟨h1, rfl⟩ := h
    simp only [Bool.and_eq_true, List.isPrefixOf_iff_prefix, bne_iff_ne, ne_eq] at hk
    obtain ⟨⟨r, rfl⟩, hne⟩ := hk
    simp only [List.drop_left] at h1
    subst h1
    exact ⟨fun hr => hne (by simp [hr]), hm⟩
  · rintro ⟨hn, hm⟩
    exact ⟨l ++ ns, e, hm, by simp [hn]⟩

theorem mem_filesBelow_iff (wf : fs.WellFormed) {l ns : Location} :
    ns ∈ fs.filesBelow l ↔ ns ≠ [] ∧ ∃ content mode, fs.find? (l ++ ns) = some (.file content mode) := by
  simp only [filesBelow, List.mem_filterMap, Prod.exists]
  constructor
  · rintro ⟨ms, e, hm, h⟩
    cases e with
    | file content mode =>
      cases h
      obtain ⟨hn, hm⟩ := mem_below_iff.1 hm
      exact ⟨hn, content, mode, wf.find?_of_mem hm⟩
    | _ => cases h
  · rintro ⟨hn, content, mode, h⟩
    exact ⟨ns, _, mem_below_iff.2 ⟨hn, mem_of_find? (by simp [hn]) h⟩, rfl⟩

theorem below_sorted (wf : fs.WellFormed) (l : Location) :
    (fs.below l).Pairwise fun a b => Location.before fs.choices.order l a.1 b.1 = true := by
  refine List.pairwise_filterMap.2 (wf.sorted.imp fun {x y} h a ha b hb => ?_)
  simp only [Option.ite_none_right_eq_some, Bool.and_eq_true, List.isPrefixOf_iff_prefix, Option.some.injEq] at ha hb
  obtain ⟨⟨⟨r, hr⟩, -⟩, rfl⟩ := ha
  obtain ⟨⟨⟨s, hs⟩, -⟩, rfl⟩ := hb
  rw [← hr, ← hs, Location.before_append_left] at h
  simpa [← hr, ← hs] using h

theorem filesBelow_sorted (wf : fs.WellFormed) (l : Location) :
    (fs.filesBelow l).Pairwise fun a b => Location.before fs.choices.order l a b = true := by
  refine List.pairwise_filterMap.2 ((below_sorted wf l).imp fun {x y} h a ha b hb => ?_)
  obtain ⟨ns, d⟩ := x
  obtain ⟨ms, e⟩ := y
  cases d <;> cases e <;> simp_all

/-! ## Paths to a directory -/

/-- an absolute path of plain names leads to a directory -/
structure LeadsTo (fs : FileSystem) (root : Path) (l : Location) : Prop where
  absolute : root.root ≠ []
  slashes : ∀ c ∈ root.root, c = Path.slash
  plain : ∀ n ∈ root.names, Path.IsPlain n
  found : ∃ mode, fs.resolve .target root.toText = .ok (.entry l (.directory mode))

theorem isPlain_of_isEntryName {n : Text} (h : isEntryName n = true) : Path.IsPlain n := by
  obtain ⟨h1, h2, h3, -⟩ := isEntryName_iff.1 h
  exact ⟨h1, h2, h3⟩

/-- a path has a form seen from the root unless it is relative and the working directory has been removed -/
theorem absolute_exists {p : Path} (h : p.isAbsolute = true ∨ fs.cwd.isGone = false) :
    ∃ root, fs.absolute p = .ok root := by
  unfold absolute workingDirectory
  rcases h with h | h
  · exact ⟨p, if_pos h⟩
  · by_cases ha : p.isAbsolute = true
    · exact ⟨p, if_pos ha⟩
    · exact ⟨fs.cwd.toPath.join p, by rw [if_neg ha, h]; rfl⟩

theorem absolute_eq_error {p : Path} (ha : p.isAbsolute = false) (hg : fs.cwd.isGone = true) :
    fs.absolute p = .error (.os ⟨.noEntry, none, none⟩) := by
  rw [absolute, workingDirectory, ha, hg]
  rfl

/-- a relative path seen from the root leads through the working directory -/
theorem absolute_relative {p root : Path} (h : fs.absolute p = .ok root) (hr : p.root = []) :
    fs.cwd.isGone = false ∧ root = ⟨"/", fs.cwd ++ p.names⟩ := by
  unfold absolute workingDirectory at h
  rw [if_neg (by simp [Path.isAbsolute, hr])] at h
  split_ifs at h with hg
  · cases h
  · cases h
    refine ⟨by simpa using hg, ?_⟩
    simp [Path.join, Path.isAbsolute, hr, Location.toPath]

/-- a written path seen from the root has plain names -/
theorem absolute_plain (wf : fs.WellFormed) {t : Text} {root : Path} (h : fs.absolute (Path.ofText t) = .ok root) :
    root.root ≠ [] ∧ (∀ c ∈ root.root, c = Path.slash) ∧ ∀ n ∈ root.names, Path.IsPlain n := by
  by_cases hr : (Path.ofText t).root = []
  · obtain ⟨hg, rfl⟩ := absolute_relative h hr
    obtain ⟨mode, hf⟩ := holdsDirectory_iff.1 (wf.seated.resolve_left (by simp [hg]))
    refine ⟨List.cons_ne_nil _ _, fun c hc => List.mem_singleton.1 hc, fun n hn => ?_⟩
    rcases List.mem_append.1 hn with hn | hn
    · exact isPlain_of_isEntryName (wf.name_ok hf hn)
    · exact Path.plain_of_mem_namesOf hn
  · rw [absolute, if_pos (by simpa [Path.isAbsolute] using hr)] at h
    cases h
    exact ⟨hr, Path.rootOf_slashes t, fun n hn => Path.plain_of_mem_namesOf hn⟩

theorem startOf_absolute {p : Path} (hr : ∀ c ∈ p.root, c = Path.slash) (ha : p.root ≠ []) (here : Location) :
    startOf here p.toText = [] := by
  rw [startOf, Path.toText_of_root ha, if_neg (Path.rootOf_append_ne_nil hr ha _)]

theorem starts_absolute {p : Path} (hr : ∀ c ∈ p.root, c = Path.slash) (ha : p.root ≠ []) : fs.Starts p.toText := by
  rw [Starts, startOf_absolute hr ha]
  exact holdsDirectory_root fs

theorem LeadsTo.startOf_below {root : Path} {l : Location} (h : LeadsTo fs root l) (here : Location)
    (names : List Text) : startOf here (⟨root.root, names⟩ : Path).toText = [] :=
  startOf_absolute (p := ⟨root.root, names⟩) h.slashes h.absolute here

theorem LeadsTo.starts_below {root : Path} {l : Location} (h : LeadsTo fs root l) (names : List Text) :
    fs.Starts (⟨root.root, names⟩ : Path).toText :=
  starts_absolute (p := ⟨root.root, names⟩) h.slashes h.absolute

theorem LeadsTo.holdsDirectory (g : Grounded fs) {root : Path} {l : Location} (h : LeadsTo fs root l) :
    fs.holdsDirectory l = true := by
  obtain ⟨mode, hf⟩ := h.found
  exact holdsDirectory_iff.2 ⟨mode, resolve_holds g (h.starts_below root.names) hf⟩

/-- **A path below a directory** is followed from there: through its directories, and then through its last name. -/
theorem LeadsTo.resolve (g : Grounded fs) {root : Path} {l : Location} (h : LeadsTo fs root l) :
    ∃ links, ∀ purpose dirs n, fs.HoldsDown l dirs → n ≠ [] → n.getLast? ≠ some Path.slash →
      fs.resolve purpose (⟨root.root, root.names ++ dirs ++ [n]⟩ : Path).toText =
        if pathLimit < octets (⟨root.root, root.names ++ dirs ++ [n]⟩ : Path).toText then .error .nameTooLong
        else fs.followLinks purpose links false (l ++ dirs) (stepsOf n) := by
  obtain ⟨mode, hf⟩ := h.found
  unfold FileSystem.resolve at hf
  split_ifs at hf with h1 h2
  rw [Path.stepsOf_toText_plain h.absolute h.slashes h.plain, h.startOf_below fs.cwd root.names] at hf
  obtain ⟨links, hlinks⟩ := followLinks_append rfl hf
  refine ⟨links, fun purpose dirs n hd hn hlast => ?_⟩
  have hplain : ∀ m ∈ root.names ++ dirs, Path.IsPlain m := fun m hm => by
    rcases List.mem_append.1 hm with hm | hm
    · exact h.plain m hm
    · exact isPlain_of_isEntryName (hd.2 m hm)
  have hproper : (⟨root.root, root.names ++ dirs ++ [n]⟩ : Path).IsProper := by
    refine ⟨h.slashes, fun m hm => ?_⟩
    rcases List.mem_append.1 hm with hm | hm
    · exact (hplain m hm).last
    · rw [List.mem_singleton.1 hm]; exact ⟨hn, hlast⟩
  have hsteps : stepsOf n ≠ [] := fun he => by
    have := Path.stepsOf_getLast? (Path.lastPiece_ne_nil hn hlast)
    rw [he] at this
    cases this
  have htext : (⟨root.root, root.names ++ dirs ++ [n]⟩ : Path).toText ≠ [] := by simp [Path.toText, h.absolute]
  unfold FileSystem.resolve
  rw [if_neg (by simpa using htext), h.startOf_below, Path.endsOpen_toText hproper (by simp),
    Path.stepsOf_toText h.slashes hplain hn hlast, List.append_assoc root.names dirs (stepsOf n),
    hlinks _ _ _ (by simp [hsteps]), followLinks_down g _ _ hd hsteps]

/-! ## Walks -/

theorem entryAt_eq_ok {t : Text} {l : Location} {e : Entry} (h : fs.entryAt t = .ok (l, e)) :
    unusable t = none ∧ fs.resolve .target t = .ok (.entry l e) := by
  unfold entryAt locate at h
  cases hu : unusable t with
  | some c => simp [hu, bind, Except.bind] at h
  | none =>
    cases hr : fs.resolve .target t with
    | error c => simp [hu, hr, bind, Except.bind] at h
    | ok r => cases r <;> simp_all [bind, Except.bind, pure, Except.pure, throw, throwThe, MonadExceptOf.throw]

theorem entryAt_of_resolve {t : Text} (hu : unusable t = none) {l : Location} {e : Entry}
    (h : fs.resolve .target t = .ok (.entry l e)) : fs.entryAt t = .ok (l, e) := by
  simp [entryAt, locate, hu, h, bind, Except.bind, pure, Except.pure]

theorem readFile_of_entryAt {path : Text} {k : Location} {content : Bytes} {mode : Nat}
    (h : fs.entryAt path = .ok (k, .file content mode)) : fs.readFile path = .ok content := by
  rw [readFile, h]
  rfl

theorem entry_of_look {t : Text} {l : Location} {d e : Entry} (he : fs.entryAt t = .ok (l, e))
    (h : fs.look t = .ok (some d)) : d = e := by
  unfold look at h
  rw [he] at h
  cases h
  rfl

/-- the files below a location whose names end with a suffix, in order -/
def suffixedBelow (fs : FileSystem) (l : Location) (suffix : Text) : List Location :=
  (fs.filesBelow l).filter fun ns => (ns.getLast?.getD []).endsWith suffix

theorem descend_name (root : Path) {ns : List Text} (h : ns ≠ []) :
    (descend root ns).name = ns.getLast?.getD [] := by
  rw [Path.name, descend, List.getLast?_append_of_ne_nil _ h]

/-- **A walk that succeeds** starts at a directory and gives the files below it whose names end with the suffix. -/
theorem walkSuffix_eq_ok (wf : fs.WellFormed) {t suffix : Text} {paths : List Path}
    (h : fs.walkSuffix (Path.ofText t) suffix = .ok paths) :
    ∃ root l, fs.absolute (Path.ofText t) = .ok root ∧ LeadsTo fs root l ∧
      paths = (fs.suffixedBelow l suffix).map (descend root) := by
  obtain ⟨files, hfiles, rfl⟩ := Except.exists_of_map h
  unfold walk at hfiles
  split at hfiles
  · cases hfiles
  · rename_i root ha
    split at hfiles
    · cases hfiles
    · cases hfiles
    · split at hfiles
      · cases hfiles
      · rename_i hlook _ l e he
        split at hfiles
        · cases hfiles
        · cases hfiles
          obtain ⟨h1, h2, h3⟩ := absolute_plain wf ha
          obtain rfl := entry_of_look he hlook
          refine ⟨root, l, ha, ⟨h1, h2, h3, _, (entryAt_eq_ok he).2⟩, ?_⟩
          rw [walkFiles_eq, List.filter_map, suffixedBelow]
          refine congrArg _ (List.filter_congr fun ns hns => ?_)
          rw [Function.comp_apply, descend_name root ((mem_filesBelow_iff wf).1 hns).1]
    · cases hfiles

end FileSystem
end Typings
