/-
Reach: the directories that a walk goes down into, and what stops it.

- `reaches_iff`: a directory is reached through directories, so it is one that stands below the first.
- `mem_walked_iff`, `walked_sorted`: the walk lists exactly these, in depth-first order.
- `resolve_target_error`: why a path leads to nothing.
- `Blames`: what keeps a source from being walked, and what is said of it; `walk_of_unwalkable`.
- `walk_of_walkable`: nothing else does.
-/
import Typings.Proofs.FileSystem.AllOrNothing
import Typings.Proofs.FileSystem.Walk

namespace Typings.FileSystem

variable {fs : FileSystem} {l ns : Location} {root : Path}

/-! ## Directories below a directory -/

/-- the names that lead from a location through directories only -/
inductive Reaches (fs : FileSystem) (l : Location) : Location → Prop
  | here : Reaches fs l []
  | down {ns : Location} {n : Text} (h : Reaches fs l ns) (hd : fs.holdsDirectory (l ++ (ns ++ [n])) = true) :
      Reaches fs l (ns ++ [n])

theorem reaches_iff (g : Grounded fs) (hl : fs.holdsDirectory l = true) :
    Reaches fs l ns ↔ fs.holdsDirectory (l ++ ns) = true := by
  constructor
  · intro h
    cases h with
    | here => rwa [List.append_nil]
    | down _ hd => exact hd
  · induction ns using List.reverseRecOn with
    | nil => exact fun _ => .here
    | append_singleton ns n ih =>
      intro hd
      have hup := g.up _ hd
      rw [← List.append_assoc, List.dropLast_concat] at hup
      exact .down (ih hup) hd

/-- the names that lead from a location to the directories of a walk, the location itself first -/
def walked (fs : FileSystem) (l : Location) : List Location :=
  [] :: (fs.below l).filterMap fun (ns, e) => if e.isDirectory then some ns else none

theorem walkDirectories_eq_map (root : Path) (l : Location) :
    fs.walkDirectories root l = (fs.walked l).map (descend root) := by
  have hroot : descend root [] = root := by simp [descend]
  simp only [walkDirectories, walked, List.map_cons, List.map_filterMap, hroot]
  congr 2
  funext x
  obtain ⟨ns, e⟩ := x
  cases e <;> rfl

/-- **A walk lists the directories that are reached**, -/
theorem mem_walked_iff (wf : fs.WellFormed) (hl : fs.holdsDirectory l = true) :
    ns ∈ fs.walked l ↔ Reaches fs l ns := by
  rw [reaches_iff wf.grounded hl]
  simp only [walked, List.mem_cons, List.mem_filterMap, Prod.exists]
  constructor
  · rintro (rfl | ⟨ms, e, hm, he⟩)
    · rwa [List.append_nil]
    · split_ifs at he with hd
      cases he
      have hf := wf.find?_of_mem (mem_below_iff.1 hm).2
      simpa [FileSystem.holdsDirectory, hf] using hd
  · intro hd
    by_cases hn : ns = []
    · exact Or.inl hn
    · obtain ⟨mode, hf⟩ := holdsDirectory_iff.1 hd
      exact Or.inr ⟨ns, _, mem_below_iff.2 ⟨hn, mem_of_find? (by simp [hn]) hf⟩, rfl⟩

/-- each before what it holds and before what is listed after it. -/
theorem walked_sorted (wf : fs.WellFormed) (l : Location) :
    (fs.walked l).Pairwise fun a b => Location.before fs.choices.order l a b = true := by
  refine List.pairwise_cons.2 ⟨?_, ?_⟩
  · intro ns hns
    obtain ⟨⟨ms, e⟩, hm, he⟩ := List.mem_filterMap.1 hns
    obtain ⟨-, rfl⟩ : e.isDirectory = true ∧ ms = ns := by simpa using he
    cases ms with
    | nil => exact absurd rfl (mem_below_iff.1 hm).1
    | cons n ms => rfl
  · refine List.pairwise_filterMap.2 ((below_sorted wf l).imp fun {x y} h a ha b hb => ?_)
    simp only [Option.ite_none_right_eq_some, Option.some.injEq] at ha hb
    rwa [← ha.2, ← hb.2]

/-- the first directory in depth-first order that cannot be listed -/
structure FirstUnlistable (fs : FileSystem) (root : Path) (l ns : Location) : Prop where
  reached : Reaches fs l ns
  unlistable : fs.canList (descend root ns) = false
  first : ∀ ms, Reaches fs l ms → fs.canList (descend root ms) = false →
    ms = ns ∨ Location.before fs.choices.order l ns ms = true

theorem find?_of_firstUnlistable (wf : fs.WellFormed) (root : Path) (hl : fs.holdsDirectory l = true) :
    (∃ ns, FirstUnlistable fs root l ns ∧
        (fs.walkDirectories root l).find? (fun d => !fs.canList d) = some (descend root ns)) ∨
      (∀ ns, Reaches fs l ns → fs.canList (descend root ns) = true) ∧
        (fs.walkDirectories root l).find? (fun d => !fs.canList d) = none := by
  rw [walkDirectories_eq_map, List.find?_map]
  cases h : (fs.walked l).find? ((fun d => !fs.canList d) ∘ descend root) with
  | none =>
    refine Or.inr ⟨fun ns hns => ?_, rfl⟩
    have := List.find?_eq_none.1 h ns ((mem_walked_iff wf hl).2 hns)
    simpa using this
  | some ns =>
    obtain ⟨hu, before, after, happend, hbefore⟩ := List.find?_eq_some_iff_append.1 h
    have hsorted := walked_sorted wf l
    rw [happend, List.pairwise_append, List.pairwise_cons] at hsorted
    refine Or.inl ⟨ns, ⟨?_, by simpa using hu, fun ms hms hum => ?_⟩, rfl⟩
    · exact (mem_walked_iff wf hl).1 (List.mem_of_find?_eq_some h)
    · have hmem := (mem_walked_iff wf hl).2 hms
      rw [happend, List.mem_append, List.mem_cons] at hmem
      rcases hmem with hm | rfl | hm
      · have := hbefore ms hm
        simp [hum] at this
      · exact Or.inl rfl
      · exact Or.inr (hsorted.2.1.1 ms hm)

/-! ## Paths that lead to nothing -/

theorem follow_target_error {onLink : Bool → Location → List Text → Except OsCause Target}
    (hl : ∀ o s ns cause, onLink o s ns = .error cause → cause = .nameTooLong ∨ meansAbsent cause = true)
    {opened : Bool} {start : Location} {names : List Text} {cause : OsCause}
    (h : fs.follow .target onLink opened start names = .error cause) :
    cause = .nameTooLong ∨ meansAbsent cause = true := by
  induction names generalizing start with
  | nil => cases h
  | cons n names ih =>
    rw [follow_cons] at h
    split_ifs at h with h1 h2 h3 h4 h5
    · exact ih h
    · exact ih h
    · cases h
      exact Or.inr rfl
    · cases h
      exact Or.inl rfl
    · simp at h5
    · unfold enter at h
      split at h
      · split_ifs at h
        cases h
        exact Or.inr rfl
      · simp only [reduceCtorEq, decide_false, Bool.and_false, Bool.false_eq_true, if_false] at h
        exact hl _ _ _ _ h
      · exact ih h
      · split_ifs at h
        cases h
        exact Or.inr rfl

theorem followLinks_target_error {links : Nat} {opened : Bool} {start : Location} {names : List Text}
    {cause : OsCause} (h : fs.followLinks .target links opened start names = .error cause) :
    cause = .nameTooLong ∨ meansAbsent cause = true := by
  induction links generalizing opened start names cause with
  | zero =>
    refine follow_target_error (fun _ _ _ cause h => ?_) h
    cases h
    exact Or.inr rfl
  | succ links ih => exact follow_target_error (fun _ _ _ _ h => ih h) h

/-- a path leads to nothing because it is too long, or for a reason that means that nothing is there -/
theorem resolve_target_error {path : Text} {cause : OsCause} (h : fs.resolve .target path = .error cause) :
    cause = .nameTooLong ∨ meansAbsent cause = true := by
  unfold resolve at h
  split_ifs at h
  · cases h
    exact Or.inr rfl
  · cases h
    exact Or.inl rfl
  · exact followLinks_target_error h

theorem look_of_missing {path : Text} (hlen : fs.resolve .target path ≠ .error .nameTooLong)
    (h : ∀ k e, fs.entryAt path ≠ .ok (k, e)) : fs.look path = .ok none := by
  unfold look entryAt locate at *
  cases hu : unusable path with
  | some c =>
    have hos := Replace.unusable_ne_os hu
    cases c with
    | os e => exact absurd rfl (hos e)
    | _ => rfl
  | none =>
    simp only [hu] at h ⊢
    cases hr : fs.resolve .target path with
    | error cause =>
      rcases resolve_target_error hr with rfl | habsent
      · exact absurd hr hlen
      · change (if meansAbsent cause then _ else _) = _
        rw [if_pos habsent]
    | ok t =>
      cases t with
      | absent k => rfl
      | entry k e => exact absurd (by rw [hr]; rfl) (h k e)

theorem look_of_entryAt {path : Text} {k : Location} {e : Entry} (h : fs.entryAt path = .ok (k, e)) :
    fs.look path = .ok (some e) := by
  rw [look, h]

/-! ## What stops a walk -/

/-- the source is nothing, no directory, or a directory from which one that cannot be listed is reached -/
inductive Unwalkable (fs : FileSystem) (root : Path) : Prop
  | missing (h : ∀ k e, fs.entryAt root.toText ≠ .ok (k, e))
  | noDirectory {k : Location} {e : Entry} (h : fs.entryAt root.toText = .ok (k, e)) (he : e.isDirectory = false)
  | unlistable {l ns : Location} {mode : Nat} (h : fs.entryAt root.toText = .ok (l, .directory mode))
      (hr : Reaches fs l ns) (hu : fs.canList (descend root ns) = false)

/-- the path that a walk stops at and what is said of it -/
inductive Blames (fs : FileSystem) (root : Path) : Path → Text → Prop
  | missing (h : ∀ k e, fs.entryAt root.toText ≠ .ok (k, e)) :
      Blames fs root root ("Source directory not found: " ++ root.toText)
  | noDirectory {k : Location} {e : Entry} (h : fs.entryAt root.toText = .ok (k, e)) (he : e.isDirectory = false) :
      Blames fs root root ("Source path is not a directory: " ++ root.toText)
  | unlistable {l ns : Location} {mode : Nat} (h : fs.entryAt root.toText = .ok (l, .directory mode))
      (hns : FirstUnlistable fs root l ns) : Blames fs root (descend root ns)
        ("Cannot read directory " ++ (descend root ns).toText ++ ": "
          ++ (OsCause.permission.on (descend root ns).toText).message)

/-- a source leads to a directory that is there -/
theorem holdsDirectory_of_entryAt (wf : fs.WellFormed) {t : Text} (ha : fs.absolute (Path.ofText t) = .ok root)
    {mode : Nat} (h : fs.entryAt root.toText = .ok (l, .directory mode)) : fs.holdsDirectory l = true := by
  obtain ⟨h1, h2, h3⟩ := absolute_plain wf ha
  exact LeadsTo.holdsDirectory wf.grounded ⟨h1, h2, h3, mode, (entryAt_eq_ok h).2⟩

/-- **A walk that cannot be made names what stops it**, the first such directory if there are several. -/
theorem walk_of_unwalkable (wf : fs.WellFormed) {t : Text} (ha : fs.absolute (Path.ofText t) = .ok root)
    (hlen : fs.resolve .target root.toText ≠ .error .nameTooLong) (h : Unwalkable fs root) :
    ∃ blamed message, Blames fs root blamed message ∧
      fs.walk (Path.ofText t) = .error (storageFailure blamed message) := by
  cases h with
  | missing h =>
    refine ⟨root, _, .missing h, ?_⟩
    simp only [walk, ha, look_of_missing hlen h]
  | @noDirectory k e h he =>
    refine ⟨root, _, .noDirectory h he, ?_⟩
    simp only [walk, ha, look_of_entryAt h]
    cases e with
    | directory mode => cases he
    | _ => rfl
  | unlistable h hr hu =>
    rcases find?_of_firstUnlistable wf root (holdsDirectory_of_entryAt wf ha h) with ⟨ns, hfirst, hfind⟩ | ⟨hall, -⟩
    · refine ⟨descend root ns, _, .unlistable h hfirst, ?_⟩
      simp only [walk, ha, look_of_entryAt h, h, hfind]
    · rw [hall _ hr] at hu
      cases hu

/-- every other walk is made -/
theorem walk_of_walkable (wf : fs.WellFormed) {t : Text} (ha : fs.absolute (Path.ofText t) = .ok root)
    (h : ¬ Unwalkable fs root) : ∃ files, fs.walk (Path.ofText t) = .ok files := by
  have hfound : ∃ k e, fs.entryAt root.toText = .ok (k, e) := by
    by_contra hno
    push Not at hno
    exact h (.missing hno)
  obtain ⟨l, e, he⟩ := hfound
  cases e with
  | directory mode =>
    rcases find?_of_firstUnlistable wf root (holdsDirectory_of_entryAt wf ha he) with ⟨ns, hfirst, -⟩ | ⟨-, hfind⟩
    · exact absurd (.unlistable he hfirst.reached hfirst.unlistable) h
    · refine ⟨fs.walkFiles root l, ?_⟩
      simp only [walk, ha, look_of_entryAt he, he, hfind]
  | _ => exact absurd (.noDirectory he rfl) h

end Typings.FileSystem
