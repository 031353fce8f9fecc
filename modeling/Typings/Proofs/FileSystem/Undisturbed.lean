/-
Replacing a file without a disturbance: when it succeeds, and how it fails.

- `replaced_of_replace`, `replace_of_error`: a success leaves the file replaced, a failure leaves all as it was.
- `replace_ok_iff`: a file is replaced exactly when its temporary file can be made, the text has octets, the path can
  be asked for permissions, and a file can be renamed to it.
- `replace_crash_iff`: the failures that are no refusals of the file system.
-/
import Typings.Proofs.FileSystem.AllOrNothing
import Typings.Proofs.FileSystem.Descent

namespace Typings.Replace

open FileSystem

variable {fs : FileSystem} {path : Path} {text : Text}

/-! ## How it ends -/

/-- a replacement ends as the run of its steps, whose ends it gives without interrupts -/
theorem replace_of_run {fs' : FileSystem} {u : Unit} (h : run fs path text none = ⟨fs', .ok u⟩) :
    fs.replace path text = (fs', .ok ()) := by
  rw [run_none, Outcome.mk.injEq] at h
  obtain ⟨rfl, h⟩ := h
  cases hr : (fs.replace path text).2 with
  | ok => exact Prod.ext rfl hr
  | error c => rw [hr] at h; cases h

theorem replace_of_cleanUp {s : State} {c : Crash} (h : run fs path text none = cleanUp s (.crash c)) :
    fs.replace path text = ((cleanUp s (.crash c)).fs, .error c) := by
  have hresult := cleanUp_result s (.crash c)
  rw [← h, run_none] at hresult
  cases hr : (fs.replace path text).2 with
  | ok => rw [hr] at hresult; cases hresult
  | error d =>
    rw [hr] at hresult
    cases hresult
    refine Prod.ext ?_ hr
    rw [← h, run_none]

/-- without a disturbance a replacement goes through all its steps, or one of them fails -/
theorem replace_cases (g : Grounded fs) (hp : path.IsProper) (text : Text) :
    (∃ s, Reached fs path text steps.length s ∧ fs.replace path text = (s.fs, .ok ())) ∨
      ∃ m s st c, Reached fs path text m s ∧ steps[m]? = some st ∧ step st s = .error c ∧
        fs.replace path text = (fs, .error c) := by
  have hend : Ended fs path text 0 none (run fs path text none) := run_ended g hp none
  generalize hout : run fs path text none = out at hend
  cases hend with
  | @finished s h => exact Or.inl ⟨s, h, replace_of_run hout⟩
  | @crashed m s st c h hst hc =>
    have he := replace_of_cleanUp hout
    rw [cleanUp_of_step_error g hp h hst hc] at he
    exact Or.inr ⟨m, s, st, c, h, hst, hc, he⟩
  | refused _ _ _ _ hs => cases hs
  | interrupted _ _ hs => cases hs

theorem replaced_of_replace (g : Grounded fs) (hp : path.IsProper) (h : (fs.replace path text).2 = .ok ()) :
    Replaced fs path text (fs.replace path text).1 := by
  rcases replace_cases g hp text with ⟨s, hs, he⟩ | ⟨m, s, st, c, -, -, -, he⟩
  · rw [he]; exact (replaced_of_reached g hp hs).1
  · rw [he] at h; cases h

theorem replace_of_error (g : Grounded fs) (hp : path.IsProper) {c : Crash}
    (h : (fs.replace path text).2 = .error c) : (fs.replace path text).1 = fs := by
  rcases replace_cases g hp text with ⟨s, -, he⟩ | ⟨m, s, st, c, -, -, -, he⟩
  · rw [he] at h; cases h
  · rw [he]

/-! ## When it succeeds -/

theorem runSteps_cons {st : Step} {s s' : State} (h : step st s = .ok s') (rest : List Step) :
    runSteps none (st :: rest) s = runSteps none rest s' := by
  simp [runSteps, struck, later, h]

theorem runSteps_error {st : Step} {s : State} {c : Crash} (h : step st s = .error c) (rest : List Step) :
    runSteps none (st :: rest) s = cleanUp s (.crash c) := by
  simp [runSteps, struck, h]

theorem write_holding {l : Location} (hl : l ≠ []) {octets : Bytes} (ht : Utf8.encode text = .ok octets) (t : Text) :
    step .write (holding fs path text t l [] 0o600 none none) =
      .ok (holding fs path text t l octets 0o600 none none) := by
  have h : write (holding fs path text t l [] 0o600 none none) =
      .ok ((holding fs path text t l [] 0o600 none none).updateTemporary fun _ mode => .file octets mode) := by
    simp [write, holding, ht]
  exact h.trans (congrArg Except.ok (updateTemporary_holding hl [] 0o600 none none (fun _ _ => octets) fun _ m => m))

theorem readMode_holding (t : Text) (l : Location) (octets : Bytes) :
    step .readMode (holding fs path text t l octets 0o600 none none) =
      (modeAt (fs.put l (.file octets 0o600)) path).map fun old => holding fs path text t l octets 0o600 old none :=
  readMode_eq _

/-- a replacement up to the guarded block, and up to the question for permissions -/
theorem run_guarded {t : Text} {l : Location} (hl : Makes fs path t l) :
    run fs path text none = runSteps none (steps.drop 2) (holding fs path text t l [] 0o600 none none) := by
  have hc : step .create (begun fs path text) =
      .ok { holding fs path text t l [] 0o600 none none with guarded := false } := create_of hl
  have hg : step .guard { holding fs path text t l [] 0o600 none none with guarded := false } =
      .ok (holding fs path text t l [] 0o600 none none) := rfl
  exact (runSteps_cons hc _).trans (runSteps_cons hg _)

theorem run_holding (g : Grounded fs) (hp : path.IsProper) {t : Text} {l : Location} (hl : Makes fs path t l)
    {octets : Bytes} (ht : Utf8.encode text = .ok octets) :
    run fs path text none = runSteps none [.readMode, .clearMask, .restoreMask, .changeMode, .rename]
      (holding fs path text t l octets 0o600 none none) := by
  have hne := ne_nil_of_absent (hl.absent g hp)
  rw [run_guarded hl, steps, List.drop_succ_cons, List.drop_succ_cons, List.drop_zero,
    runSteps_cons (write_holding hne ht t), runSteps_cons rfl, runSteps_cons rfl, runSteps_cons rfl]

/-- **A file is replaced** exactly when its temporary file can be made, the text has octets, and the path can be asked
for permissions and renamed to. -/
theorem replace_ok_iff (g : Grounded fs) (hp : path.IsProper) :
    (fs.replace path text).2 = .ok () ↔ ∃ l k octets old, IsTemporary fs path l ∧ Utf8.encode text = .ok octets ∧
      modeAt (fs.put l (.file octets 0o600)) path = .ok old ∧ RenamesTo fs path k := by
  constructor
  · intro h
    rcases replace_cases g hp text with ⟨s, hs, -⟩ | ⟨m, s, st, c, -, -, -, he⟩
    · generalize hn : steps.length = n at hs
      cases hs with
      | renamed hl ht ho hk =>
        exact ⟨_, _, _, _, hl.isTemporary, ht, ho, (renamesTo_put_iff g hp hl.isTemporary _ _).1 hk⟩
      | written h => exact absurd (hn ▸ h.2) (by decide)
      | asked h => rcases h with h | h <;> exact absurd (hn.trans h) (by decide)
      | _ => exact absurd hn (by decide)
    · rw [he] at h; cases h
  · rintro ⟨l, k, octets, old, hl, ht, ho, hk⟩
    have habs := hl.absent g hp
    have hne := ne_nil_of_absent habs
    have hk : RenamesTo (fs.put l (.file octets (old.getD fs.newMode))) path k := (renamesTo_put_iff g hp hl _ _).2 hk
    obtain ⟨t, hl⟩ := hl
    have hm : step .readMode (holding fs path text t l octets 0o600 none none) =
        .ok (holding fs path text t l octets 0o600 old none) := by rw [readMode_holding, ho]; rfl
    have hr : step .rename (holding fs path text t l octets (old.getD fs.newMode) old none) = .ok _ :=
      rename_of (s := holding fs path text t l octets (old.getD fs.newMode) old none) rfl (find?_put_self fs hne _) hk
    have hrun := run_holding g hp hl ht
    rw [runSteps_cons hm, runSteps_cons (clearMask_holding _ _ _ _ _), runSteps_cons (restoreMask_holding _ _ _ _ _),
      runSteps_cons (changeMode_holding hne _ _ _ _), runSteps_cons hr] at hrun
    rw [replace_of_run hrun]

/-- a file that is replaced stands where a file can be renamed to the path; that is no directory -/
theorem replaced_renamesTo (g : Grounded fs) (hp : path.IsProper) (h : (fs.replace path text).2 = .ok ()) :
    ∃ k octets mode, RenamesTo fs path k ∧ fs.holdsDirectory k = false ∧
      NewFile fs path text k octets mode (fs.replace path text).1 := by
  obtain ⟨k, octets, mode, hnew⟩ := replaced_of_replace g hp h
  obtain ⟨l, j, -, -, hl, -, -, hj⟩ := (replace_ok_iff g hp).1 h
  have hdir := hj.holdsDirectory g (hl.starts g hp)
  obtain rfl : j = k := by
    obtain ⟨-, t, ht, -, rfl⟩ := hj
    have hplace := hnew.place
    rw [placeOf, ht] at hplace
    exact Option.some.inj hplace
  exact ⟨j, octets, mode, hj, hdir, hnew⟩

/-- where the path leads to no link, it can be asked for permissions if a file can be renamed to it -/
theorem modeAt_of_renamesTo (g : Grounded fs) (hp : path.IsProper) {l k : Location} (hl : IsTemporary fs path l)
    (hn : ∀ k target, fs.resolve .entry path.toText ≠ .ok (.entry k (.link target)))
    (hu : unusable path.toText = none) (hk : RenamesTo fs path k) (octets : Bytes) (mode : Nat) :
    ∃ old, modeAt (fs.put l (.file octets mode)) path = .ok old := by
  have hs := hl.starts g hp
  have hkl := hl.ne_place g hp g hs hk
  obtain ⟨-, t, ht, -, rfl⟩ := hk
  have htarget := (resolve_target hn).trans ht
  rw [modeAt_eq hu]
  rcases resolve_agrees (agreeOff_temporary g hp hl octets mode) g .target hs with ⟨he, -⟩ | ⟨m, hm, way, -, hr, -⟩
  · rw [he, htarget]
    cases t <;> exact ⟨_, rfl⟩
  · rw [Set.mem_singleton_iff] at hm
    subst hm
    have hr := hr (Or.inl fun target => by simp [hl.absent g hp])
    rw [htarget] at hr
    exact absurd (location_of_meet hr.symm) hkl

/-- where the path leads to no link, a file is replaced exactly when its temporary file can be made, the text has
octets, and a file can be renamed to the path -/
theorem replace_ok_iff_of_no_link (g : Grounded fs) (hp : path.IsProper)
    (hn : ∀ k target, fs.resolve .entry path.toText ≠ .ok (.entry k (.link target))) :
    (fs.replace path text).2 = .ok () ↔ (∃ l, IsTemporary fs path l) ∧ (∃ octets, Utf8.encode text = .ok octets) ∧
      unusable path.toText = none ∧ ∃ k, RenamesTo fs path k := by
  rw [replace_ok_iff g hp]
  constructor
  · rintro ⟨l, k, octets, old, hl, ht, ho, hk⟩
    exact ⟨⟨l, hl⟩, ⟨octets, ht⟩, modeAt_usable ho, k, hk⟩
  · rintro ⟨⟨l, hl⟩, ⟨octets, ht⟩, hu, k, hk⟩
    obtain ⟨old, ho⟩ := modeAt_of_renamesTo g hp hl hn hu hk octets 0o600
    exact ⟨l, k, octets, old, hl, ht, ho, hk⟩

/-! ## How it fails -/

/-- the crashes of a replacement: the temporary file's path cannot be used, the text has no octets, or the path
itself cannot be used -/
inductive Breaks (fs : FileSystem) (path : Path) (text : Text) : Crash → Prop
  | temporary {t : Text} {c : Crash} (h : temporaryPath fs path = .ok t) (hu : unusable t = some c) :
      Breaks fs path text c
  | content {l : Location} {fault : Utf8.Unencodable} (hl : IsTemporary fs path l)
      (ht : Utf8.encode text = .error fault) : Breaks fs path text (.encoding fault)
  | target {l : Location} {octets : Bytes} {c : Crash} (hl : IsTemporary fs path l)
      (ht : Utf8.encode text = .ok octets) (hu : unusable path.toText = some c) : Breaks fs path text c

theorem Breaks.ne_os {c : Crash} (h : Breaks fs path text c) (e : OsError) : c ≠ .os e := by
  cases h with
  | temporary _ hu => exact unusable_ne_os hu e
  | content => simp
  | target _ _ hu => exact unusable_ne_os hu e

theorem temporaryPath_eq_error {c : Crash} (h : temporaryPath fs path = .error c) : ∃ e, c = .os e := by
  unfold temporaryPath absolute workingDirectory at h
  split_ifs at h <;> simp [bind, Except.bind, Except.map, pure, Except.pure] at h
  exact ⟨_, h.symm⟩

theorem rename_eq_error {s : State} {c : Crash} (h : rename s = .error c) : ∃ e, c = .os e := by
  unfold rename at h
  split at h
  · cases h
  · simp only at h
    split at h
    · exact ⟨_, (Except.error.inj h).symm⟩
    · split_ifs at h
      · exact ⟨_, (Except.error.inj h).symm⟩
      · split at h
        · exact ⟨_, (Except.error.inj h).symm⟩
        · split at h <;> cases h
        · split at h <;> cases h

theorem modeAt_eq_error {c : Crash} (h : modeAt fs path = .error c) :
    (∃ e, c = .os e) ∨ unusable path.toText = some c := by
  cases hu : unusable path.toText with
  | some d =>
    rw [modeAt_unusable hu, Except.error.injEq] at h
    exact Or.inr (by rw [h])
  | none =>
    rw [modeAt_eq hu] at h
    split at h
    · cases h
    · cases h
    · split_ifs at h
      cases h
      exact Or.inl ⟨_, rfl⟩

theorem create_eq_error {s : State} {c : Crash} (h : create s = .error c) :
    (∃ e, c = .os e) ∨ ∃ t, temporaryPath s.fs s.path = .ok t ∧ unusable t = some c := by
  unfold create at h
  cases h1 : temporaryPath s.fs s.path with
  | error d =>
    obtain ⟨e, rfl⟩ := temporaryPath_eq_error h1
    simp only [h1, bind, Except.bind, Except.error.injEq] at h
    exact Or.inl ⟨e, h.symm⟩
  | ok t =>
    simp only [h1, bind, Except.bind, locate] at h
    cases hu : unusable t with
    | some d =>
      simp only [hu, Except.error.injEq] at h
      exact Or.inr ⟨t, rfl, by rw [hu, h]⟩
    | none =>
      simp only [hu] at h
      cases hr : s.fs.resolve .entry t with
      | error cause =>
        simp only [hr, Except.error.injEq] at h
        exact Or.inl ⟨_, h.symm⟩
      | ok found =>
        cases found with
        | absent l => simp [hr, pure, Except.pure] at h
        | entry l e =>
          simp only [hr, throw, throwThe, MonadExceptOf.throw, Except.error.injEq] at h
          exact Or.inl ⟨_, h.symm⟩

/-- a step that fails is refused, or is one of those that break -/
theorem step_eq_error {n : Nat} {s : State} {st : Step} {c : Crash} (h : Reached fs path text n s)
    (hst : steps[n]? = some st) (hc : step st s = .error c) : (∃ e, c = .os e) ∨ Breaks fs path text c := by
  cases h with
  | begun =>
    cases hst
    rcases create_eq_error hc with h | ⟨t, ht, hu⟩
    · exact Or.inl h
    · exact Or.inr (.temporary ht hu)
  | created => cases hst; cases hc
  | guarded hl =>
    cases hst
    simp only [step, write] at hc
    split at hc
    · rename_i fault ht
      cases hc
      exact Or.inr (.content hl.isTemporary ht)
    · cases hc
  | written hn hl ht =>
    obtain ⟨h3, h6⟩ := hn
    interval_cases n <;> cases hst
    · cases hc
    · cases hc
    · cases hc
    · rw [readMode_holding] at hc
      cases hm : modeAt (fs.put _ _) path with
      | ok old => rw [hm] at hc; cases hc
      | error d =>
        rw [hm] at hc
        cases hc
        rcases modeAt_eq_error hm with h | hu
        · exact Or.inl h
        · exact Or.inr (.target hl.isTemporary ht hu)
  | asked hn => rcases hn with rfl | rfl <;> cases hst <;> cases hc
  | cleared => cases hst; cases hc
  | @allowed t l octets old =>
    cases hst
    have hc : rename (holding fs path text t l octets (old.getD fs.newMode) old none) = .error c := hc
    exact Or.inl (rename_eq_error hc)
  | renamed => cases hst

/-- **A replacement crashes** exactly where a path cannot be used or the text has no octets. All other failures are
refusals. -/
theorem replace_crash_iff (g : Grounded fs) (hp : path.IsProper) {c : Crash} :
    (fs.replace path text).2 = .error c ∧ (∀ e, c ≠ .os e) ↔ Breaks fs path text c := by
  constructor
  · rintro ⟨h, hos⟩
    rcases replace_cases g hp text with ⟨s, -, he⟩ | ⟨m, s, st, d, hr, hst, hc, he⟩
    · rw [he] at h; cases h
    · rw [he, Except.error.injEq] at h
      subst h
      rcases step_eq_error hr hst hc with ⟨e, rfl⟩ | hb
      · exact absurd rfl (hos e)
      · exact hb
  · intro h
    refine ⟨?_, h.ne_os⟩
    cases h with
    | @temporary t _ h1 hu =>
      have hc : step .create (begun fs path text) = .error c := by
        simp [step, create, begun, h1, locate, hu, bind, Except.bind]
      exact congrArg Prod.snd (replace_of_cleanUp (runSteps_error hc _))
    | @content l fault hl ht =>
      obtain ⟨t, hl⟩ := hl
      have hw : step .write (holding fs path text t l [] 0o600 none none) = .error (.encoding fault) := by
        simp [step, write, holding, ht]
      exact congrArg Prod.snd (replace_of_cleanUp ((run_guarded hl).trans (runSteps_error hw _)))
    | @target l octets _ hl ht hu =>
      obtain ⟨t, hl⟩ := hl
      have hm : step .readMode (holding fs path text t l octets 0o600 none none) = .error c := by
        rw [readMode_holding, modeAt_unusable hu]; rfl
      exact congrArg Prod.snd (replace_of_cleanUp ((run_holding g hp hl ht).trans (runSteps_error hm _)))

end Typings.Replace
