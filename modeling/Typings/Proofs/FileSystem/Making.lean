/-
Making directories and writing files: what they change.

- `resolve_absent`: where a path leads to nothing, there is nothing.
- `makeDirectory_made`: a directory is made with those above it, all where nothing stood, also when a refusal ends it.
- `writeFile_cases`: a file that is written stands where its path leads.
- `CrashLog.write_logged`: a crash log leaves directories and itself.
-/
import Typings.CrashLog
import Typings.Proofs.FileSystem.Resolution

namespace Typings

namespace FileSystem

variable {fs fs' : FileSystem}

/-! ## Nothing -/

theorem follow_absent {purpose : Purpose} {onLink : Bool → Location → List Text → Except OsCause Target}
    {l : Location} (hl : ∀ o s ns, onLink o s ns = .ok (.absent l) → fs.find? l = none) {opened : Bool}
    {start : Location} {ns : List Text} (h : fs.follow purpose onLink opened start ns = .ok (.absent l)) :
    fs.find? l = none := by
  induction ns generalizing start with
  | nil => simp [follow] at h
  | cons name rest ih =>
    rw [follow_cons] at h
    split_ifs at h
    · exact ih h
    · exact ih h
    · unfold enter at h
      split at h
      · rename_i hf
        split_ifs at h
        cases h
        exact hf
      · split_ifs at h
        · cases h
        · exact hl _ _ _ h
      · exact ih h
      · split_ifs at h
        cases h

theorem followLinks_absent {purpose : Purpose} {links : Nat} {l : Location} {opened : Bool} {start : Location}
    {ns : List Text} (h : fs.followLinks purpose links opened start ns = .ok (.absent l)) : fs.find? l = none := by
  induction links generalizing opened start ns with
  | zero => exact follow_absent (fun _ _ _ h => by cases h) h
  | succ links ih => exact follow_absent (fun _ _ _ h => ih h) h

/-- **Where a path leads to nothing,** there is nothing. -/
theorem resolve_absent {purpose : Purpose} {path : Text} {l : Location}
    (h : fs.resolve purpose path = .ok (.absent l)) : fs.find? l = none := by
  unfold resolve at h
  split_ifs at h
  exact followLinks_absent h

theorem locate_absent {purpose : Purpose} {path : Text} {l : Location}
    (h : fs.locate purpose path = .ok (.absent l)) : fs.find? l = none := by
  unfold locate at h
  split at h
  · cases h
  · split at h
    · rename_i hr
      cases h
      exact resolve_absent hr
    · cases h

/-! ## Directories -/

/-- directories have come where nothing stood, and nothing else has changed -/
def Made (fs fs' : FileSystem) : Prop :=
  ∀ k, fs'.find? k = fs.find? k ∨ fs.find? k = none ∧ ∃ mode, fs'.find? k = some (.directory mode)

theorem Made.refl (fs : FileSystem) : Made fs fs := fun _ => Or.inl rfl

theorem Made.trans {fs'' : FileSystem} (h : Made fs fs') (h' : Made fs' fs'') : Made fs fs'' := by
  intro k
  rcases h' k with hk' | ⟨hnone, hdir⟩
  · rw [hk']
    exact h k
  · rcases h k with hk | ⟨hk, mode, hfound⟩
    · exact Or.inr ⟨hk ▸ hnone, hdir⟩
    · rw [hnone] at hfound
      cases hfound

theorem makeNew_made {path : Text} (h : fs.makeNew path fs.newDirectory = .ok fs') : Made fs fs' := by
  unfold makeNew at h
  cases hl : fs.locate .entry path with
  | error c => simp [hl, bind, Except.bind] at h
  | ok t =>
    cases t with
    | entry l e => simp [hl, bind, Except.bind, refuse] at h
    | absent l =>
      simp only [hl, bind, Except.bind, pure, Except.pure, Except.ok.injEq] at h
      subst h
      have habs := locate_absent hl
      intro k
      by_cases hk : k = l
      · subst hk
        exact Or.inr ⟨habs, _, find?_put_self fs (ne_nil_of_absent habs) _⟩
      · exact Or.inl (find?_put_of_ne fs hk _)

theorem makeDirectories_made (fs : FileSystem) (path : Path) (depth : Nat) :
    Made fs (fs.makeDirectories path depth).1 := by
  induction depth generalizing fs path with
  | zero => exact .refl fs
  | succ depth ih =>
    unfold makeDirectories
    cases hn : fs.makeNew path.toText fs.newDirectory with
    | ok fs₁ => exact makeNew_made hn
    | error c =>
      cases c with
      | os e =>
        simp only
        split_ifs with he
        · -- the directories above come first
          have hup := ih fs path.parent
          generalize fs.makeDirectories path.parent depth = out at hup
          obtain ⟨fs₁, x⟩ := out
          cases x with
          | error c => exact hup
          | ok u =>
            simp only
            cases hn' : fs₁.makeNew path.toText fs₁.newDirectory with
            | ok fs₂ => exact hup.trans (makeNew_made hn')
            | error c => exact hup
        · exact .refl fs
        · exact .refl fs
      | _ => exact .refl fs

theorem makeDirectory_made (fs : FileSystem) (path : Path) : Made fs (fs.makeDirectory path).1 :=
  makeDirectories_made fs path _

/-! ## Files -/

/-- a file that is written stands where its path leads, unless a pipe takes what is written -/
theorem writeFile_cases {path : Text} {content : Bytes} (h : fs.writeFile path content = .ok fs') :
    fs' = fs ∨ ∃ t mode, fs.locate .creation path = .ok t ∧ fs' = fs.put t.location (.file content mode) := by
  unfold writeFile at h
  cases hl : fs.locate .creation path with
  | error c => simp [hl, bind, Except.bind] at h
  | ok t =>
    cases t with
    | absent l =>
      simp only [hl, bind, Except.bind, pure, Except.pure, Except.ok.injEq] at h
      exact Or.inr ⟨_, fs.newMode, rfl, h.symm⟩
    | entry l e =>
      cases e with
      | file old mode =>
        simp only [hl, bind, Except.bind, pure, Except.pure, Except.ok.injEq] at h
        exact Or.inr ⟨_, mode, rfl, h.symm⟩
      | directory mode => simp [hl, bind, Except.bind, refuse] at h
      | _ =>
        simp only [hl, bind, Except.bind, pure, Except.pure, Except.ok.injEq] at h
        exact Or.inl h.symm

end FileSystem

/-! ## Crash logs -/

namespace CrashLog

open FileSystem

variable {fs : FileSystem} {system moment : Text} {env : Environment} {c : Crash}

/-- all that the log of a crash changes: directories are made where nothing stood, and the log stands where its path
leads -/
def Logged (system : Text) (env : Environment) (moment : Text) (c : Crash) (fs fs' : FileSystem) : Prop :=
  ∃ made, Made fs made ∧ (fs' = made ∨ ∃ data octets t mode, DataDirectory.path system env = .ok data ∧
    Utf8.encode (lastLine c ++ "\n") = .ok octets ∧
    made.locate .creation (pathIn data moment).toText = .ok t ∧ fs' = made.put t.location (.file octets mode))

theorem provide_made (fs : FileSystem) (system : Text) (env : Environment) :
    Made fs (DataDirectory.provide fs system env).1 ∧
      ∀ data, (DataDirectory.provide fs system env).2 = .ok data → DataDirectory.path system env = .ok data := by
  unfold DataDirectory.provide
  cases hp : DataDirectory.path system env with
  | error c => exact ⟨.refl fs, by simp⟩
  | ok p =>
    have hmade := makeDirectory_made fs p
    simp only
    generalize fs.makeDirectory p = out at hmade
    obtain ⟨fs₁, x⟩ := out
    cases x with
    | error c => exact ⟨hmade, by simp⟩
    | ok u => exact ⟨hmade, fun data hd => by simpa using hd⟩

/-- **A crash log** leaves directories and itself, even if it cannot be written. -/
theorem write_logged (fs : FileSystem) (system : Text) (env : Environment) (moment : Text) (c : Crash) :
    Logged system env moment c fs (write fs system env moment c).1 := by
  unfold write
  obtain ⟨hmade, hdata⟩ := provide_made fs system env
  generalize DataDirectory.provide fs system env = out at hmade hdata
  obtain ⟨fs₁, x⟩ := out
  cases x with
  | error c' => exact ⟨fs₁, hmade, Or.inl rfl⟩
  | ok data =>
    have hlogs := makeDirectory_made fs₁ (pathIn data moment).parent
    simp only
    generalize fs₁.makeDirectory (pathIn data moment).parent = out at hlogs
    obtain ⟨fs₂, y⟩ := out
    have hmade₂ : Made fs fs₂ := hmade.trans hlogs
    cases y with
    | error c' => exact ⟨fs₂, hmade₂, Or.inl rfl⟩
    | ok u =>
      simp only
      cases ht : Utf8.encode (lastLine c ++ "\n") with
      | error fault => exact ⟨fs₂, hmade₂, Or.inl rfl⟩
      | ok octets =>
        simp only
        cases hw : fs₂.writeFile (pathIn data moment).toText octets with
        | error c' => exact ⟨fs₂, hmade₂, Or.inl rfl⟩
        | ok fs₃ =>
          rcases writeFile_cases hw with rfl | ⟨t, mode, hl, rfl⟩
          · exact ⟨fs₃, hmade₂, Or.inl rfl⟩
          · exact ⟨fs₂, hmade₂, Or.inr ⟨data, octets, t, mode, hdata data rfl, ht, hl, rfl⟩⟩

end CrashLog
end Typings
