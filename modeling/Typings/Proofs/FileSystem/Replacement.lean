/-
Replacing a file: the states that a replacement goes through, and how it can end.

`Reached` says what the state is after so many steps: nothing yet, then the old file system with the temporary file
on it, then the new file in place.
- `step_reached`: a step leads from one of these states to the next.
- `run_ended`: however a replacement is struck, it ends after its last step, or in the clean-up of one of them.
-/
import Typings.FileSystem.Replace
import Typings.Proofs.FileSystem.Agreement
import Typings.Proofs.Path.Steps

namespace Typings.Replace

open FileSystem

/-! ## Where a replacement works -/

/-- the temporary file can be made under a path, which leads to a location where nothing is -/
def Makes (fs : FileSystem) (path : Path) (t : Text) (l : Location) : Prop :=
  temporaryPath fs path = .ok t ∧ fs.locate .entry t = .ok (.absent l)

/-- the temporary file can be made at a location -/
def IsTemporary (fs : FileSystem) (path : Path) (l : Location) : Prop := ∃ t, Makes fs path t l

/-- the permissions of what a path leads to, none if there is nothing -/
def modeAt (fs : FileSystem) (path : Path) : Except Crash (Option Nat) :=
  match fs.entryAt path.toText with
  | .ok (_, e) => .ok (some e.mode)
  | .error (.os e) => if e.cause = .noEntry then .ok none else .error (.os e)
  | .error c => .error c

/-- a file can be renamed to a path, and is then at a location -/
def RenamesTo (fs : FileSystem) (path : Path) (l : Location) : Prop :=
  endsNameless path.toText = false ∧
    ∃ t, fs.resolve .entry path.toText = .ok t ∧ t.isDirectory = false ∧ t.location = l

theorem locate_eq_ok {fs : FileSystem} {purpose : Purpose} {path : Text} {t : Target}
    (h : fs.locate purpose path = .ok t) : unusable path = none ∧ fs.resolve purpose path = .ok t := by
  unfold locate at h
  split at h
  · cases h
  · rename_i hu
    split at h
    · rename_i hr; cases h; exact ⟨hu, hr⟩
    · cases h

/-- the search ends at one of the paths that are tried -/
theorem lastTried_mem (fs : FileSystem) (t : Text) (ts : List Text) : lastTried fs t ts ∈ t :: ts := by
  induction ts generalizing t with
  | nil => exact List.mem_cons_self
  | cons u ts ih =>
    unfold lastTried
    split_ifs
    · exact List.mem_cons_of_mem _ (ih u)
    · exact List.mem_cons_self

/-- the search ends where it ended before, if what was taken still is, and the end is taken or not as it was -/
theorem lastTried_congr {fs fs' : FileSystem} {t : Text} {ts : List Text}
    (taken : ∀ u ∈ t :: ts, isTaken fs u = true → isTaken fs' u = true)
    (free : isTaken fs (lastTried fs t ts) = false → isTaken fs' (lastTried fs t ts) = false) :
    lastTried fs' t ts = lastTried fs t ts := by
  induction ts generalizing t with
  | nil => rfl
  | cons u ts ih =>
    cases h : isTaken fs t with
    | true =>
      simp only [lastTried, h, if_true] at free
      simp only [lastTried, h, taken t List.mem_cons_self h, if_true]
      exact ih (fun v hv => taken v (List.mem_cons_of_mem _ hv)) free
    | false =>
      simp only [lastTried, h, Bool.false_eq_true, if_false, forall_const] at free
      simp only [lastTried, h, free, Bool.false_eq_true, if_false]

/-- the paths of a temporary file are those that the draws give in the directory of the old one -/
theorem temporaryPath_of {fs : FileSystem} {path d : Path} (h : fs.absolute path.parent = .ok d) :
    temporaryPath fs path = .ok (lastTried fs (candidate d.normalize path.name (fs.choices.draws path).first)
      ((fs.choices.draws path).others.map (candidate d.normalize path.name))) := by
  simp only [temporaryPath, h, bind, Except.bind, pure, Except.pure]

/-- the path of a temporary file is one that a draw gives -/
theorem temporaryPath_eq_ok {fs : FileSystem} {path : Path} {t : Text} (h : temporaryPath fs path = .ok t) :
    ∃ d draw, fs.absolute path.parent = .ok d ∧ t = candidate d.normalize path.name draw := by
  cases hd : fs.absolute path.parent with
  | error c => simp [temporaryPath, hd, bind, Except.bind] at h
  | ok d =>
    rw [temporaryPath_of hd, Except.ok.injEq] at h
    have hm := h ▸ lastTried_mem fs _ _
    rw [← List.map_cons, List.mem_map] at hm
    obtain ⟨draw, -, ht⟩ := hm
    exact ⟨d, draw, rfl, ht.symm⟩

/-- where the directory of a path is known, the path and all that are tried for its temporary file can be followed -/
theorem starts_of_absolute {fs : FileSystem} (g : Grounded fs) {path : Path} (hp : path.IsProper) {d : Path}
    (hd : fs.absolute path.parent = .ok d) (draw : Draw) :
    fs.Starts (candidate d.normalize path.name draw) ∧ fs.Starts path.toText := by
  unfold FileSystem.absolute at hd
  by_cases hr : path.root = []
  · rcases g.seated with hg | hd
    · simp [Path.parent, Path.isAbsolute, hr, workingDirectory, hg, Except.map] at hd
    · exact ⟨holdsDirectory_startOf hd _, holdsDirectory_startOf hd _⟩
  · have hb : path.parent.isAbsolute = true := by simp [Path.parent, Path.isAbsolute, hr]
    rw [if_pos hb, Except.ok.injEq] at hd
    subst hd
    have start : ∀ t : Text, Path.rootOf t ≠ [] → fs.Starts t := fun t ht => by
      simp only [Starts, startOf, ht, if_false]
      exact holdsDirectory_root fs
    refine ⟨start _ ?_, start _ ?_⟩
    · rw [candidate, Path.toText_of_root (p := path.parent.normalize) hr, List.append_assoc, List.append_assoc]
      exact Path.rootOf_append_ne_nil hp.1 hr _
    · rw [Path.toText_of_root hr]
      exact Path.rootOf_append_ne_nil hp.1 hr _

/-- where the temporary file has a path, both paths can be followed -/
theorem starts_of_temporaryPath {fs : FileSystem} (g : Grounded fs) {path : Path} (hp : path.IsProper) {t : Text}
    (h : temporaryPath fs path = .ok t) : fs.Starts t ∧ fs.Starts path.toText := by
  obtain ⟨d, draw, hd, rfl⟩ := temporaryPath_eq_ok h
  exact starts_of_absolute g hp hd draw

theorem IsTemporary.starts {fs : FileSystem} (g : Grounded fs) {path : Path} (hp : path.IsProper) {l : Location}
    (h : IsTemporary fs path l) : fs.Starts path.toText := by
  obtain ⟨t, h1, -⟩ := h
  exact (starts_of_temporaryPath g hp h1).2

theorem IsTemporary.absent {fs : FileSystem} (g : Grounded fs) {path : Path} (hp : path.IsProper) {l : Location}
    (h : IsTemporary fs path l) : fs.find? l = none := by
  obtain ⟨t, h1, h2⟩ := h
  exact resolve_holds g (starts_of_temporaryPath g hp h1).1 (locate_eq_ok h2).2

theorem Makes.isTemporary {fs : FileSystem} {path : Path} {t : Text} {l : Location} (h : Makes fs path t l) :
    IsTemporary fs path l :=
  ⟨t, h⟩

theorem Makes.absent {fs : FileSystem} (g : Grounded fs) {path : Path} (hp : path.IsProper) {t : Text} {l : Location}
    (h : Makes fs path t l) : fs.find? l = none :=
  h.isTemporary.absent g hp

/-! ## Single steps -/

theorem create_of {s : State} {t : Text} {l : Location} (h : Makes s.fs s.path t l) :
    create s = .ok { s with fs := s.fs.put l (.file [] 0o600), temporary := some (t, l) } := by
  obtain ⟨h1, h2⟩ := h
  simp [create, h1, h2, bind, Except.bind, pure, Except.pure]

theorem create_eq_ok {s s' : State} (h : create s = .ok s') : ∃ t l, Makes s.fs s.path t l ∧
    s' = { s with fs := s.fs.put l (.file [] 0o600), temporary := some (t, l) } := by
  unfold create at h
  cases h1 : temporaryPath s.fs s.path with
  | error c => simp [h1, bind, Except.bind] at h
  | ok t =>
    cases h2 : s.fs.locate .entry t with
    | error c => simp [h1, h2, bind, Except.bind] at h
    | ok found =>
      cases found with
      | entry l e => simp [h1, h2, bind, Except.bind, throw, throwThe, MonadExceptOf.throw] at h
      | absent l =>
        simp only [h1, h2, bind, Except.bind, pure, Except.pure, Except.ok.injEq] at h
        exact ⟨t, l, ⟨h1, h2⟩, h.symm⟩

theorem readMode_eq (s : State) : readMode s = (modeAt s.fs s.path).map fun old => { s with oldMode := old } := by
  unfold readMode modeAt
  cases s.fs.entryAt s.path.toText with
  | ok found => rfl
  | error c =>
    cases c with
    | os e => by_cases he : e.cause = .noEntry <;> simp [he, Except.map]
    | _ => rfl

theorem rename_of {s : State} {t : Text} {l k : Location} {e : Entry} (ht : s.temporary = some (t, l))
    (hl : s.fs.find? l = some e) (h : RenamesTo s.fs s.path k) :
    rename s = .ok { s with fs := (s.fs.erase l).put k e } := by
  obtain ⟨hn, t, hr, hd, rfl⟩ := h
  cases t with
  | absent k => simp [rename, ht, hr, hn, hl, Target.location]
  | entry k d =>
    cases d with
    | directory mode => simp [Target.isDirectory, Entry.isDirectory] at hd
    | _ => simp [rename, ht, hr, hn, hl, Target.location]

theorem rename_eq_ok {s s' : State} {t : Text} {l : Location} {e : Entry} (ht : s.temporary = some (t, l))
    (hl : s.fs.find? l = some e) (h : rename s = .ok s') :
    ∃ k, RenamesTo s.fs s.path k ∧ s' = { s with fs := (s.fs.erase l).put k e } := by
  suffices hk : ∃ k, RenamesTo s.fs s.path k by
    obtain ⟨k, hk⟩ := hk
    rw [rename_of ht hl hk, Except.ok.injEq] at h
    exact ⟨k, hk, h.symm⟩
  unfold rename at h
  simp only [ht] at h
  split at h
  · cases h
  · rename_i found hr
    split_ifs at h with hn
    cases found with
    | absent k => exact ⟨k, by simpa using hn, _, hr, rfl, rfl⟩
    | entry k d =>
      cases d with
      | directory mode => cases h
      | _ => exact ⟨k, by simpa using hn, _, hr, rfl, rfl⟩

/-! ## The states of a replacement -/

/-- the state before the first step -/
def begun (fs : FileSystem) (path : Path) (text : Text) : State := ⟨fs, path, text, none, false, none, none⟩

/-- the state in the guarded block while the temporary file stands -/
def holding (fs : FileSystem) (path : Path) (text t : Text) (l : Location) (content : Bytes) (mode : Nat)
    (old mask : Option Nat) : State :=
  ⟨({ fs with umask := if mask.isSome then 0 else fs.umask }).put l (.file content mode), path, text, some (t, l),
    true, old, mask⟩

theorem updateTemporary_holding {fs : FileSystem} {path : Path} {text t : Text} {l : Location} (hl : l ≠ [])
    (content : Bytes) (mode : Nat) (old mask : Option Nat) (f : Bytes → Nat → Bytes) (m : Bytes → Nat → Nat) :
    (holding fs path text t l content mode old mask).updateTemporary (fun c n => .file (f c n) (m c n)) =
      holding fs path text t l (f content mode) (m content mode) old mask := by
  simp [State.updateTemporary, holding, find?_put_self _ hl, put_put]

/-- the state after so many steps -/
inductive Reached (fs : FileSystem) (path : Path) (text : Text) : Nat → State → Prop
  | begun : Reached fs path text 0 (begun fs path text)
  | created {t : Text} {l : Location} (hl : Makes fs path t l) :
      Reached fs path text 1 { holding fs path text t l [] 0o600 none none with guarded := false }
  | guarded {t : Text} {l : Location} (hl : Makes fs path t l) :
      Reached fs path text 2 (holding fs path text t l [] 0o600 none none)
  | written {n : Nat} {t : Text} {l : Location} {octets : Bytes} (hn : 3 ≤ n ∧ n ≤ 6) (hl : Makes fs path t l)
      (ht : Utf8.encode text = .ok octets) : Reached fs path text n (holding fs path text t l octets 0o600 none none)
  | asked {n : Nat} {t : Text} {l : Location} {octets : Bytes} {old : Option Nat} (hn : n = 7 ∨ n = 9)
      (hl : Makes fs path t l) (ht : Utf8.encode text = .ok octets)
      (ho : modeAt (fs.put l (.file octets 0o600)) path = .ok old) :
      Reached fs path text n (holding fs path text t l octets 0o600 old none)
  | cleared {t : Text} {l : Location} {octets : Bytes} {old : Option Nat} (hl : Makes fs path t l)
      (ht : Utf8.encode text = .ok octets) (ho : modeAt (fs.put l (.file octets 0o600)) path = .ok old) :
      Reached fs path text 8
        (holding fs path text t l octets 0o600 old (if old.isNone then some fs.umask else none))
  | allowed {t : Text} {l : Location} {octets : Bytes} {old : Option Nat} (hl : Makes fs path t l)
      (ht : Utf8.encode text = .ok octets) (ho : modeAt (fs.put l (.file octets 0o600)) path = .ok old) :
      Reached fs path text 10 (holding fs path text t l octets (old.getD fs.newMode) old none)
  | renamed {t : Text} {l k : Location} {octets : Bytes} {old : Option Nat} (hl : Makes fs path t l)
      (ht : Utf8.encode text = .ok octets) (ho : modeAt (fs.put l (.file octets 0o600)) path = .ok old)
      (hk : RenamesTo (fs.put l (.file octets (old.getD fs.newMode))) path k) :
      Reached fs path text 11
        ⟨fs.put k (.file octets (old.getD fs.newMode)), path, text, some (t, l), true, old, none⟩

variable {fs : FileSystem} {path : Path} {text t : Text}

theorem write_eq_ok {s s' : State} (h : write s = .ok s') :
    ∃ octets, Utf8.encode s.text = .ok octets ∧ s' = s.updateTemporary fun _ mode => .file octets mode := by
  unfold write at h
  split at h
  · cases h
  · rename_i octets ht; cases h; exact ⟨octets, ht, rfl⟩

/-- the mask is cleared only where there is no old file to ask -/
theorem clearMask_holding (t : Text) (l : Location) (octets : Bytes) (mode : Nat) (old : Option Nat) :
    step .clearMask (holding fs path text t l octets mode old none) =
      .ok (holding fs path text t l octets mode old (if old.isNone then some fs.umask else none)) := by
  cases old <;> rfl

theorem restoreMask_holding (t : Text) (l : Location) (octets : Bytes) (mode : Nat) (old : Option Nat) :
    step .restoreMask (holding fs path text t l octets mode old (if old.isNone then some fs.umask else none)) =
      .ok (holding fs path text t l octets mode old none) := by
  cases old <;> rfl

theorem changeMode_holding {l : Location} (hl : l ≠ []) (t : Text) (octets : Bytes) (mode : Nat) (old : Option Nat) :
    step .changeMode (holding fs path text t l octets mode old none) =
      .ok (holding fs path text t l octets (old.getD fs.newMode) old none) :=
  congrArg Except.ok (updateTemporary_holding hl octets mode old none (fun c _ => c) fun _ _ => old.getD fs.newMode)

/-- **A step leads from a state to the next.** -/
theorem step_reached (g : Grounded fs) (hp : path.IsProper) {n : Nat} {s s' : State} {st : Step}
    (h : Reached fs path text n s) (hst : steps[n]? = some st) (hs : step st s = .ok s') :
    Reached fs path text (n + 1) s' := by
  have ne_nil {t : Text} {l : Location} (hl : Makes fs path t l) : l ≠ [] :=
    ne_nil_of_absent (hl.absent g hp)
  cases h with
  | begun =>
    cases hst
    obtain ⟨t, l, hl, rfl⟩ := create_eq_ok hs
    exact .created hl
  | created hl =>
    cases hst
    cases hs
    exact .guarded hl
  | guarded hl =>
    cases hst
    obtain ⟨octets, ht, rfl⟩ := write_eq_ok hs
    rw [updateTemporary_holding (ne_nil hl) _ _ _ _ (fun _ _ => octets) fun _ mode => mode]
    exact .written ⟨le_rfl, by decide⟩ hl ht
  | written hn hl ht =>
    obtain ⟨h3, h6⟩ := hn
    interval_cases n <;> cases hst
    · cases hs; exact .written ⟨by decide, by decide⟩ hl ht
    · cases hs; exact .written ⟨by decide, by decide⟩ hl ht
    · cases hs; exact .written ⟨by decide, by decide⟩ hl ht
    · rw [show step .readMode = readMode from rfl, readMode_eq] at hs
      obtain ⟨old, ho, rfl⟩ := Except.exists_of_map hs
      exact .asked (Or.inl rfl) hl ht ho
  | asked hn hl ht ho =>
    rcases hn with rfl | rfl <;> cases hst
    · rw [clearMask_holding, Except.ok.injEq] at hs
      exact hs ▸ .cleared hl ht ho
    · rw [changeMode_holding (ne_nil hl), Except.ok.injEq] at hs
      exact hs ▸ .allowed hl ht ho
  | cleared hl ht ho =>
    cases hst
    rw [restoreMask_holding, Except.ok.injEq] at hs
    exact hs ▸ .asked (Or.inr rfl) hl ht ho
  | @allowed t l octets old hl ht ho =>
    cases hst
    set held := holding fs path text t l octets (old.getD fs.newMode) old none
    have hf : held.fs.find? l = some (.file octets (old.getD fs.newMode)) := find?_put_self fs (ne_nil hl) _
    have he : held.fs.erase l = fs := erase_put_of_absent (hl.absent g hp) _
    obtain ⟨k, hk, hs'⟩ := rename_eq_ok rfl hf hs
    rw [he] at hs'
    exact hs' ▸ .renamed hl ht ho hk
  | renamed hl ht ho hk => cases hst

/-! ## Runs -/

/-- how a replacement ends that goes on from the state after `n` steps -/
inductive Ended (fs : FileSystem) (path : Path) (text : Text) (n : Nat) (strike : Option Strike) : Outcome → Prop
  | finished {s : State} (h : Reached fs path text steps.length s) : Ended fs path text n strike ⟨s.fs, .ok ()⟩
  | crashed {m : Nat} {s : State} {st : Step} {c : Crash} (h : Reached fs path text m s)
      (hst : steps[m]? = some st) (hc : step st s = .error c) : Ended fs path text n strike (cleanUp s (.crash c))
  | refused {m : Nat} {s : State} {st : Step} {e : OsError} (h : Reached fs path text m s)
      (hm : n ≤ m ∧ m < steps.length) (hst : steps[m]? = some st) (he : st.canBeRefused e.cause = true)
      (hs : strike = some (m - n, .refusal e)) : Ended fs path text n strike (cleanUp s (.crash (.os e)))
  | interrupted {m : Nat} {s : State} (h : Reached fs path text m s) (hm : n ≤ m ∧ m ≤ steps.length)
      (hs : strike = some (m - n, .interrupt)) : Ended fs path text n strike (cleanUp s .interrupt)

/-- a disturbance that is left behind a step came one step later before it -/
theorem strike_of_later {strike : Option Strike} {n m : Nat} {d : Disturbance} (hm : n + 1 ≤ m)
    (h : later strike = some (m - (n + 1), d)) : strike = some (m - n, d) := by
  unfold later at h
  split at h
  · cases h
    rw [show (m - (n + 1)).succ = m - n by omega]
  · cases h

theorem Ended.back {n : Nat} {strike : Option Strike} {o : Outcome}
    (h : Ended fs path text (n + 1) (later strike) o) : Ended fs path text n strike o := by
  cases h with
  | finished h => exact .finished h
  | crashed h hst hc => exact .crashed h hst hc
  | refused h hm hst he hs => exact .refused h ⟨by omega, hm.2⟩ hst he (strike_of_later hm.1 hs)
  | interrupted h hm hs => exact .interrupted h ⟨by omega, hm.2⟩ (strike_of_later hm.1 hs)

/-- a disturbance ends a replacement before a step as an interrupt, or as a refusal of that step -/
theorem struck_eq_some {st : Step} {strike : Option Strike} {halt : Halt} (h : struck st strike = some halt) :
    strike = some (0, .interrupt) ∧ halt = .interrupt ∨
      ∃ e, strike = some (0, .refusal e) ∧ st.canBeRefused e.cause = true ∧ halt = .crash (.os e) := by
  unfold struck at h
  split at h
  · cases h; exact Or.inl ⟨rfl, rfl⟩
  · rename_i e
    split_ifs at h with he
    cases h
    exact Or.inr ⟨e, rfl, he, rfl⟩
  · cases h

theorem runSteps_ended (g : Grounded fs) (hp : path.IsProper) {l : List Step} {n : Nat} {s : State}
    {strike : Option Strike} (h : Reached fs path text n s) (hn : n ≤ steps.length)
    (hl : l = steps.drop n) : Ended fs path text n strike (runSteps strike l s) := by
  induction l generalizing n s strike with
  | nil =>
    have hn : n = steps.length := le_antisymm hn (List.drop_eq_nil_iff.1 hl.symm)
    subst hn
    unfold runSteps
    split_ifs with hs
    · exact .interrupted h ⟨le_rfl, le_rfl⟩ (by simp [hs])
    · exact .finished h
  | cons st rest ih =>
    have hlt : n < steps.length := by
      by_contra hge
      rw [List.drop_eq_nil_iff.2 (by omega)] at hl
      cases hl
    have hd := List.drop_eq_getElem_cons hlt
    rw [← hl, List.cons.injEq] at hd
    have hst : steps[n]? = some st := by rw [hd.1]; exact List.getElem?_eq_getElem hlt
    unfold runSteps
    split
    · rename_i halt hs
      rcases struck_eq_some hs with ⟨hstrike, rfl⟩ | ⟨e, hstrike, he, rfl⟩
      · exact .interrupted h ⟨le_rfl, hlt.le⟩ (by simp [hstrike])
      · exact .refused h ⟨le_rfl, hlt⟩ hst he (by simp [hstrike])
    · cases hs : step st s with
      | error c => exact .crashed h hst hs
      | ok s' => exact (ih (step_reached g hp h hst hs) hlt hd.2).back

/-- **However a replacement is struck**, it ends after its last step or in the clean-up of one of its states. -/
theorem run_ended (g : Grounded fs) (hp : path.IsProper) (strike : Option Strike) :
    Ended fs path text 0 strike (run fs path text strike) :=
  runSteps_ended g hp .begun (Nat.zero_le _) rfl

end Typings.Replace
