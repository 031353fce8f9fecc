/-
Traversals: a walk goes through each directory in the order of its listing, whichever that is.

- `Traversal`: the files met in a directory, entry after entry. A directory's whole content comes at the place of that
  directory; links and pipes give nothing.
- `below_eq`: what stands below a location, by the entries of its listing. `traversal_walkFiles`: so the files of a walk
  are those that a traversal meets, and `Traversal.unique` says that there are no others.
- `entryAt_absolute`: a relative path and the same path seen from the root lead to the same directory.
- `walk_exact`: where all directories that are reached can be listed, a walk gives precisely the files in them.
- `removed_root_crashes`: the price. The working directory, once removed, is still a directory to everybody in it, but a
  relative path to it has no form that is seen from the root.
-/
import Typings.Proofs.FileSystem.Order
import Typings.Proofs.FileSystem.Reach

namespace Typings.FileSystem

variable {fs : FileSystem} {l : Location} {root : Path}

/-! ## Listings -/

/-- the entries of a directory, in order -/
def listing (fs : FileSystem) (l : Location) : List (Text × Entry) :=
  (fs.below l).filterMap fun (ns, e) => match ns with
    | [n] => some (n, e)
    | _ => none

theorem mem_listing_iff (wf : fs.WellFormed) {n : Text} {e : Entry} :
    (n, e) ∈ fs.listing l ↔ fs.find? (l ++ [n]) = some e := by
  simp only [listing, List.mem_filterMap, Prod.exists]
  constructor
  · rintro ⟨ns, d, hm, h⟩
    split at h
    · cases h
      exact wf.find?_of_mem (mem_below_iff.1 hm).2
    · cases h
  · intro h
    exact ⟨[n], e, mem_below_iff.2 ⟨by simp, mem_of_find? (by simp) h⟩, rfl⟩

theorem listing_sorted (wf : fs.WellFormed) (l : Location) :
    (fs.listing l).Pairwise fun a b => fs.choices.order.before l a.1 b.1 = true := by
  refine List.pairwise_filterMap.2 ((below_sorted wf l).imp fun {x y} h a ha b hb => ?_)
  obtain ⟨ns, d⟩ := x
  obtain ⟨ms, e⟩ := y
  dsimp only at ha hb
  split at ha
  · split at hb
    · cases ha
      cases hb
      simpa [Location.before] using h
    · cases hb
  · cases ha

/-- an entry of a listing and all that stands below it, with the names that lead there from the directory -/
def branch (fs : FileSystem) (l : Location) (x : Text × Entry) : List (Location × Entry) :=
  ([x.1], x.2) :: (fs.below (l ++ [x.1])).map fun (ns, e) => (x.1 :: ns, e)

theorem head_of_mem_branch {x : Text × Entry} {y : Location × Entry} (h : y ∈ fs.branch l x) :
    ∃ ns, y.1 = x.1 :: ns := by
  rcases List.mem_cons.1 h with rfl | h
  · exact ⟨[], rfl⟩
  · obtain ⟨z, -, rfl⟩ := List.mem_map.1 h
    exact ⟨z.1, rfl⟩

theorem branch_sorted (wf : fs.WellFormed) (l : Location) (x : Text × Entry) :
    (fs.branch l x).Pairwise fun a b => Location.before fs.choices.order l a.1 b.1 = true := by
  refine List.pairwise_cons.2 ⟨fun y hy => ?_, List.pairwise_map.2 ((below_sorted wf _).imp fun h => ?_)⟩
  · obtain ⟨⟨ns, e⟩, hm, rfl⟩ := List.mem_map.1 hy
    obtain ⟨m, ms, rfl⟩ := List.exists_cons_of_ne_nil (mem_below_iff.1 hm).1
    simp [Location.before]
  · simpa [Location.before, ListingOrder.irrefl] using h

theorem mem_branches_iff (wf : fs.WellFormed) {ns : Location} {e : Entry} :
    (ns, e) ∈ (fs.listing l).flatMap (fs.branch l) ↔ (ns, e) ∈ fs.below l := by
  rw [List.mem_flatMap, mem_below_iff]
  constructor
  · rintro ⟨⟨n, d⟩, hn, hm⟩
    rcases List.mem_cons.1 hm with h | h
    · cases h
      exact ⟨by simp, mem_of_find? (by simp) ((mem_listing_iff wf).1 hn)⟩
    · obtain ⟨⟨ms, e⟩, hm, h⟩ := List.mem_map.1 h
      cases h
      refine ⟨by simp, ?_⟩
      simpa using (mem_below_iff.1 hm).2
  · rintro ⟨hne, hm⟩
    obtain ⟨n, ms, rfl⟩ := List.exists_cons_of_ne_nil hne
    cases ms with
    | nil => exact ⟨(n, e), (mem_listing_iff wf).2 (wf.find?_of_mem hm), List.mem_cons_self⟩
    | cons m ms =>
      -- what stands deeper stands in the directory of the first name
      obtain ⟨dirs, k, hk⟩ := (List.eq_nil_or_concat (m :: ms)).resolve_left (by simp)
      have hf := wf.find?_of_mem hm
      rw [hk, List.concat_eq_append] at hf
      have hdown : fs.HoldsDown l (n :: dirs) := wf.holdsDown (by simpa using hf)
      obtain ⟨mode, hd⟩ := holdsDirectory_iff.1 (hdown.1 [n] ⟨dirs, rfl⟩)
      refine ⟨(n, .directory mode), (mem_listing_iff wf).2 hd, List.mem_cons_of_mem _ ?_⟩
      exact List.mem_map.2 ⟨(m :: ms, e), mem_below_iff.2 ⟨by simp, by simpa using hm⟩, rfl⟩

/-- **What stands below a location** are the entries of its listing, each followed by what stands below it. -/
theorem below_eq (wf : fs.WellFormed) (l : Location) : fs.below l = (fs.listing l).flatMap (fs.branch l) := by
  refine eq_of_sorted (below_sorted wf l) ?_ fun x => (mem_branches_iff wf).symm
  refine List.pairwise_flatMap.2 ⟨fun x _ => branch_sorted wf l x, (listing_sorted wf l).imp fun h a ha b hb => ?_⟩
  obtain ⟨ns, ha⟩ := head_of_mem_branch ha
  obtain ⟨ms, hb⟩ := head_of_mem_branch hb
  rw [ha, hb]
  simp [Location.before, h]

theorem below_eq_nil (wf : fs.WellFormed) (h : fs.holdsDirectory l = false) : fs.below l = [] := by
  rw [below_eq wf, List.flatMap_eq_nil_iff]
  rintro ⟨n, e⟩ hm
  have hd := wf.up ((mem_listing_iff wf).1 hm)
  rw [List.dropLast_concat, h] at hd
  cases hd

theorem length_below_lt (wf : fs.WellFormed) {x : Text × Entry} (hx : x ∈ fs.listing l) :
    (fs.below (l ++ [x.1])).length < (fs.below l).length := by
  have hsub : (fs.branch l x).Sublist (fs.below l) := by
    rw [below_eq wf l, List.flatMap_def]
    exact List.sublist_flatten_of_mem (List.mem_map_of_mem hx)
  have hlen := hsub.length_le
  rw [branch, List.length_cons, List.length_map] at hlen
  omega

/-! ## Traversals -/

/-- the files that are met in a directory, by its entries in order: a file stands for itself, a directory for all that
is met in it, and nothing else for anything -/
inductive Traversal (fs : FileSystem) : Path → Location → List (Text × Entry) → List Path → Prop
  | nil {d : Path} {l : Location} : Traversal fs d l [] []
  | file {d : Path} {l : Location} {n : Text} {content : Bytes} {mode : Nat} {rest : List (Text × Entry)}
      {ps : List Path} (h : Traversal fs d l rest ps) :
      Traversal fs d l ((n, .file content mode) :: rest) (d.child n :: ps)
  | directory {d : Path} {l : Location} {n : Text} {mode : Nat} {rest : List (Text × Entry)} {qs ps : List Path}
      (hq : Traversal fs (d.child n) (l ++ [n]) (fs.listing (l ++ [n])) qs) (h : Traversal fs d l rest ps) :
      Traversal fs d l ((n, .directory mode) :: rest) (qs ++ ps)
  | other {d : Path} {l : Location} {n : Text} {e : Entry} {rest : List (Text × Entry)} {ps : List Path}
      (hf : ∀ content mode, e ≠ .file content mode) (hd : ∀ mode, e ≠ .directory mode)
      (h : Traversal fs d l rest ps) : Traversal fs d l ((n, e) :: rest) ps

/-- a directory is traversed in one way -/
theorem Traversal.unique {es : List (Text × Entry)} {ps qs : List Path} (h : Traversal fs root l es ps)
    (h' : Traversal fs root l es qs) : qs = ps := by
  induction h generalizing qs with
  | nil =>
    cases h'
    rfl
  | file _ ih =>
    cases h' with
    | file h => rw [ih h]
    | other hf => exact absurd rfl (hf _ _)
  | directory _ _ ihq ih =>
    cases h' with
    | directory hq h => rw [ihq hq, ih h]
    | other _ hd => exact absurd rfl (hd _)
  | other hf hd _ ih =>
    cases h' with
    | file => exact absurd rfl (hf _ _)
    | directory => exact absurd rfl (hd _)
    | other _ _ h => exact ih h

theorem descend_child (root : Path) (n : Text) (ns : Location) :
    descend (root.child n) ns = descend root (n :: ns) := by
  simp [descend, Path.child]

/-- the names of an entry that is a file -/
def toFile : Location × Entry → Option Location
  | (ns, .file _ _) => some ns
  | _ => none

theorem filesBelow_eq (fs : FileSystem) (l : Location) : fs.filesBelow l = (fs.below l).filterMap toFile := by
  refine List.filterMap_congr fun x _ => ?_
  obtain ⟨ns, e⟩ := x
  cases e <;> rfl

/-- the files of an entry and of what stands below it -/
theorem filesOf_branch (fs : FileSystem) (l : Location) (n : Text) (e : Entry) :
    (fs.branch l (n, e)).filterMap toFile = (toFile ([n], e)).toList ++ (fs.filesBelow (l ++ [n])).map (n :: ·) := by
  have hdown : ((fs.below (l ++ [n])).map fun (ns, e) => (n :: ns, e)).filterMap toFile =
      (fs.filesBelow (l ++ [n])).map (n :: ·) := by
    rw [filesBelow_eq, List.filterMap_map, List.map_filterMap]
    refine List.filterMap_congr fun x _ => ?_
    obtain ⟨ns, d⟩ := x
    cases d <;> rfl
  rw [branch, List.filterMap_cons, hdown]
  cases toFile ([n], e) <;> rfl

/-- the files of a walk that an entry of the listing contributes -/
def contributed (fs : FileSystem) (root : Path) (l : Location) : Text × Entry → List Path
  | (n, .file _ _) => [root.child n]
  | (n, .directory _) => fs.walkFiles (root.child n) (l ++ [n])
  | _ => []

/-- the files of a walk, by the entries of the listing -/
theorem walkFiles_listing (wf : fs.WellFormed) (root : Path) (l : Location) :
    fs.walkFiles root l = (fs.listing l).flatMap (fs.contributed root l) := by
  rw [walkFiles_eq, filesBelow_eq, below_eq wf l, List.filterMap_flatMap, List.map_flatMap]
  refine List.flatMap_congr fun x hx => ?_
  obtain ⟨n, e⟩ := x
  have hleaf (hd : e.isDirectory = false) : fs.filesBelow (l ++ [n]) = [] := by
    have hentry := (mem_listing_iff wf).1 hx
    rw [filesBelow_eq, below_eq_nil wf (by simp [FileSystem.holdsDirectory, hentry, hd])]
    rfl
  rw [filesOf_branch]
  cases e with
  | directory mode => simp [toFile, contributed, walkFiles_eq, descend_child]
  | file content mode => simp [toFile, contributed, hleaf rfl, descend, Path.child]
  | link target => simp [toFile, contributed, hleaf rfl]
  | pipe mode => simp [toFile, contributed, hleaf rfl]

/-- **The files of a walk are those that a traversal meets.** -/
theorem traversal_walkFiles (wf : fs.WellFormed) (root : Path) (l : Location) :
    Traversal fs root l (fs.listing l) (fs.walkFiles root l) := by
  induction hk : (fs.below l).length using Nat.strong_induction_on generalizing root l with
  | _ k ih =>
    rw [walkFiles_listing wf]
    have entries : ∀ es : List (Text × Entry), (∀ x ∈ es, x ∈ fs.listing l) →
        Traversal fs root l es (es.flatMap (fs.contributed root l)) := by
      intro es
      induction es with
      | nil => exact fun _ => .nil
      | cons x es ihes =>
        intro hes
        obtain ⟨n, e⟩ := x
        have hx := hes _ List.mem_cons_self
        have hrest := ihes fun y hy => hes y (List.mem_cons_of_mem _ hy)
        rw [List.flatMap_cons]
        cases e with
        | file content mode => exact .file hrest
        | directory mode => exact .directory (ih _ (hk ▸ length_below_lt wf hx) _ _ rfl) hrest
        | link target => exact .other (by simp) (by simp) hrest
        | pipe mode => exact .other (by simp) (by simp) hrest
    exact entries _ fun _ hx => hx

/-! ## Relative roots -/

/-- names of directories that are there lead to the last of them -/
theorem follow_held {onLink : Bool → Location → List Text → Except OsCause Target} {opened : Bool}
    (g : Grounded fs) {ns : List Text} (h : fs.HoldsDown l ns) :
    fs.follow .target onLink opened l ns =
      .ok (.entry (l ++ ns) ((fs.find? (l ++ ns)).getD (.directory usualMode))) := by
  induction ns generalizing l with
  | nil => simp [follow]
  | cons n ns ih =>
    have hl : fs.holdsDirectory l = true := by simpa using h.1 [] List.nil_prefix
    obtain ⟨-, -, hn1, hn2, hn3⟩ := isEntryName_iff.1 (h.2 n List.mem_cons_self)
    obtain ⟨mode, hf⟩ := holdsDirectory_iff.1 (h.1 [n] ⟨ns, rfl⟩)
    rw [follow_cons, if_neg hn2, if_neg hn1, if_neg (by simp [g.here l hl]), if_neg (Nat.not_lt.2 hn3),
      if_neg (by simp), enter, hf]
    simpa using ih h.tail

theorem followLinks_held (g : Grounded fs) (links : Nat) (opened : Bool) {ns : List Text} (h : fs.HoldsDown l ns) :
    fs.followLinks .target links opened l ns =
      .ok (.entry (l ++ ns) ((fs.find? (l ++ ns)).getD (.directory usualMode))) := by
  cases links <;> exact follow_held g h

/-- **A directory seen from the root** is the one that the path leads to, unless the longer path cannot be used. -/
theorem entryAt_absolute (wf : fs.WellFormed) {t : Text} {mode : Nat}
    (h : fs.entryAt (Path.ofText t).toText = .ok (l, .directory mode)) (ha : fs.absolute (Path.ofText t) = .ok root)
    (hu : unusable root.toText = none) (hlen : octets root.toText ≤ pathLimit) :
    fs.entryAt root.toText = .ok (l, .directory mode) := by
  obtain ⟨h1, h2, h3⟩ := absolute_plain wf ha
  have g := wf.grounded
  by_cases hr : (Path.ofText t).root = []
  · obtain ⟨hg, hroot⟩ := absolute_relative ha hr
    have hnames : root.names = fs.cwd ++ (Path.ofText t).names := by rw [hroot]
    have hplain : ∀ n ∈ (Path.ofText t).names, Path.IsPlain n := fun n hn => Path.plain_of_mem_namesOf hn
    have hdown : fs.HoldsDown [] fs.cwd := wf.holdsDown_of_directory (wf.seated.resolve_left (by simp [hg]))
    have htext : root.toText ≠ [] := by
      rw [Path.toText_of_root h1]
      exact List.append_ne_nil_of_left_ne_nil h1 _
    have hfound := (entryAt_eq_ok h).2
    refine entryAt_of_resolve hu ?_
    unfold resolve at hfound ⊢
    split_ifs at hfound
    rw [startOf, if_pos (Path.rootOf_toText_relative hr hplain)] at hfound
    rw [if_neg (by simpa using htext), if_neg (Nat.not_lt.2 hlen), startOf_absolute h2 h1,
      Path.stepsOf_toText_plain h1 h2 h3, hnames]
    by_cases hn : (Path.ofText t).names = []
    · -- the path is a dot, and the working directory is followed to its end
      have hdot : (Path.ofText t).toText = ("." : Text) := by simp [Path.toText, hr, hn]
      have hsteps : stepsOf ("." : Text) = [("." : Text)] := by decide
      rw [hdot, hsteps] at hfound
      rw [hn, List.append_nil, followLinks_held g _ _ hdown, ← hfound]
      rfl
    · rw [Path.stepsOf_toText_names hn (Path.rootOf_slashes t) hplain,
        Path.endsOpen_toText (Path.ofText_isProper t) hn] at hfound
      rw [followLinks_down g _ _ hdown hn, List.nil_append,
        Path.endsOpen_toText ⟨h2, fun n hn => (h3 n hn).last⟩ (by simp [hnames, hn])]
      exact hfound
  · rw [absolute, if_pos (by simpa [Path.isAbsolute] using hr)] at ha
    cases ha
    exact h

/-! ## Walks -/

/-- a directory can be listed under its path: the path can be used, it is short enough, and nothing is denied -/
structure Listable (fs : FileSystem) (p : Path) : Prop where
  usable : unusable p.toText = none
  short : octets p.toText ≤ pathLimit
  allowed : fs.canList p = true

theorem mem_walkFiles_iff (wf : fs.WellFormed) (hl : fs.holdsDirectory l = true) {p : Path} :
    p ∈ fs.walkFiles root l ↔ ∃ dirs n content mode, Reaches fs l dirs ∧
      fs.find? (l ++ dirs ++ [n]) = some (.file content mode) ∧ p = descend root (dirs ++ [n]) := by
  rw [walkFiles_eq, List.mem_map]
  constructor
  · rintro ⟨ns, hns, rfl⟩
    obtain ⟨hne, content, mode, hf⟩ := (mem_filesBelow_iff wf).1 hns
    obtain ⟨dirs, n, rfl⟩ := (List.eq_nil_or_concat ns).resolve_left hne
    rw [List.concat_eq_append, ← List.append_assoc] at hf
    refine ⟨dirs, n, content, mode, (reaches_iff wf.grounded hl).2 ?_, hf, by rw [List.concat_eq_append]⟩
    simpa using wf.up hf
  · rintro ⟨dirs, n, content, mode, -, hf, rfl⟩
    exact ⟨dirs ++ [n], (mem_filesBelow_iff wf).2 ⟨by simp, content, mode, by rwa [← List.append_assoc]⟩, rfl⟩

theorem walkFiles_nodup (wf : fs.WellFormed) (root : Path) (l : Location) : (fs.walkFiles root l).Nodup := by
  rw [walkFiles_eq]
  refine List.Nodup.map (descend_injective root) (List.nodup_iff_pairwise_ne.2 ?_)
  refine (filesBelow_sorted wf l).imp fun {a b} h hab => ?_
  rw [hab, Location.before_irrefl] at h
  cases h

/-- where everything can be listed, a walk gives the files of the directory that its path leads to -/
theorem walk_of_listable (wf : fs.WellFormed) {t : Text} {mode : Nat}
    (h : fs.entryAt (Path.ofText t).toText = .ok (l, .directory mode)) (ha : fs.absolute (Path.ofText t) = .ok root)
    (hall : ∀ ns, Reaches fs l ns → Listable fs (descend root ns)) :
    fs.holdsDirectory l = true ∧ fs.walk (Path.ofText t) = .ok (fs.walkFiles root l) := by
  have hhere : Listable fs root := by simpa [descend] using hall [] .here
  have hentry := entryAt_absolute wf h ha hhere.usable hhere.short
  have hl := holdsDirectory_of_entryAt wf ha hentry
  refine ⟨hl, ?_⟩
  rcases find?_of_firstUnlistable wf root hl with ⟨ns, hfirst, -⟩ | ⟨-, hfind⟩
  · exact absurd hfirst.unlistable (by simp [(hall ns hfirst.reached).allowed])
  · simp only [walk, ha, look_of_entryAt hentry, hentry, hfind]

/-- **A walk is exact.** -/
theorem walk_exact (wf : fs.WellFormed) {t : Text} {mode : Nat}
    (h : fs.entryAt (Path.ofText t).toText = .ok (l, .directory mode)) :
    ((Path.ofText t).isAbsolute = true ∨ fs.cwd.isGone = false →
      ∃ root, fs.absolute (Path.ofText t) = .ok root ∧ root.isAbsolute = true ∧
        ((∀ ns, Reaches fs l ns → Listable fs (descend root ns)) →
          ∃ files, fs.walk (Path.ofText t) = .ok files ∧
            (∀ ps, Traversal fs root l (fs.listing l) ps ↔ ps = files) ∧
            (∀ p, p ∈ files ↔ ∃ dirs n content mode, Reaches fs l dirs ∧
              fs.find? (l ++ dirs ++ [n]) = some (.file content mode) ∧ p = descend root (dirs ++ [n])) ∧
            files.Nodup ∧
            ∀ suffix, fs.walkSuffix (Path.ofText t) suffix =
              .ok (files.filter fun p => p.name.endsWith suffix))) ∧
    ((Path.ofText t).isAbsolute = false → fs.cwd.isGone = true →
      fs.walk (Path.ofText t) = .error (.crash (.os ⟨.noEntry, none, none⟩))) := by
  constructor
  · intro hseen
    obtain ⟨root, ha⟩ := absolute_exists hseen
    refine ⟨root, ha, by simpa [Path.isAbsolute] using (absolute_plain wf ha).1, fun hall => ?_⟩
    obtain ⟨hl, hwalk⟩ := walk_of_listable wf h ha hall
    have htraversal := traversal_walkFiles wf root l
    refine ⟨fs.walkFiles root l, hwalk, fun ps => ⟨fun h => htraversal.unique h, fun h => h ▸ htraversal⟩,
      fun p => mem_walkFiles_iff wf hl, walkFiles_nodup wf root l, fun suffix => ?_⟩
    rw [walkSuffix, hwalk]
    rfl
  · intro hrelative hgone
    rw [walk, absolute_eq_error hrelative hgone]

/-- a directory behind a link, with a file before a directory and one after it, a link to itself, one to a file, and a
pipe -/
theorem walk_exact_linked :
    let fs : FileSystem := ⟨[([("a" : Text)], .directory 0o755), (["a", "A.json"], .file [] 0o644),
      (["a", "b"], .directory 0o755), (["a", "b", "B.json"], .file [] 0o644), (["a", "b", "up"], .link ".."),
      (["a", "b", "z"], .file [] 0o644), (["a", "c.json"], .link "A.json"), (["a", "d.json"], .pipe 0o644),
      (["a", "z.json"], .file [] 0o644), (["r"], .link "a")], [], 0o022, [], .usual⟩
    let files : List Path := [⟨"/", ["r", "A.json"]⟩, ⟨"/", ["r", "b", "B.json"]⟩, ⟨"/", ["r", "b", "z"]⟩,
      ⟨"/", ["r", "z.json"]⟩]
    fs.WellFormed ∧ Traversal fs ⟨"/", ["r"]⟩ ["a"] (fs.listing ["a"]) files ∧
      fs.walk (Path.ofText "r") = .ok files ∧
      fs.walkSuffix (Path.ofText "r") ".json" = .ok (files.filter fun p => p.name.endsWith ".json") := by
  intro fs files
  have wf : fs.WellFormed := by decide
  have hentry : fs.entryAt (Path.ofText "r").toText = .ok (["a"], .directory 0o755) := by decide +kernel
  obtain ⟨root, ha, -, hwalk⟩ := (walk_exact wf hentry).1 (Or.inr rfl)
  have hroot : fs.absolute (Path.ofText "r") = .ok ⟨"/", ["r"]⟩ := by decide +kernel
  obtain rfl : root = ⟨"/", ["r"]⟩ := Except.ok.inj (ha.symm.trans hroot)
  have hall : ∀ ns, Reaches fs ["a"] ns → Listable fs (descend ⟨"/", ["r"]⟩ ns) := by
    intro ns hns
    have hmem : ns ∈ fs.walked ["a"] := (mem_walked_iff wf (by decide)).2 hns
    have hwalked : fs.walked ["a"] = [[], [("b" : Text)]] := by decide +kernel
    rw [hwalked] at hmem
    simp only [List.mem_cons, List.not_mem_nil, or_false] at hmem
    rcases hmem with rfl | rfl <;> exact ⟨by decide +kernel, by decide +kernel, by decide +kernel⟩
  obtain ⟨found, hfound, htraversal, -, -, hsuffix⟩ := hwalk hall
  have hfiles : fs.walk (Path.ofText "r") = .ok files := by decide +kernel
  obtain rfl : found = files := Except.ok.inj (hfound.symm.trans hfiles)
  exact ⟨wf, (htraversal _).2 rfl, hfound, hsuffix _⟩

/-- **A removed working directory cannot be walked by a relative path**, although it is a directory, empty and not
denied to anybody. -/
theorem removed_root_crashes :
    let fs : FileSystem := ⟨[([("tmp" : Text)], .directory 0o777)], ["tmp", "d"].map Text.ofString ++ [[]], 0o022, [],
      .usual⟩
    fs.WellFormed ∧ fs.entryAt (Path.ofText ".").toText = .ok (fs.cwd, .directory usualMode) ∧
      fs.listing fs.cwd = [] ∧ Listable fs (Path.ofText ".") ∧
      fs.walk (Path.ofText ".") = .error (.crash (.os ⟨.noEntry, none, none⟩)) := by
  intro fs
  refine ⟨by decide, by decide +kernel, by decide +kernel, ⟨by decide, by decide, by decide⟩, ?_⟩
  have hgone : fs.absolute (Path.ofText ".") = .error (.os ⟨.noEntry, none, none⟩) := absolute_eq_error rfl rfl
  rw [walk, hgone]

end Typings.FileSystem
