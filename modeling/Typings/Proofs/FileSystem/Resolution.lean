/-
Resolution: what is known of the place a path leads to.

- `resolve_holds`: where a path leads is what stands there.
- `resolve_last`: a path that is not followed through a last link, and leads to no directory, leads to its own last
  name.

Each is proved for one run of `follow` with whatever links lead to, and then for any number of links by induction.
-/
import Typings.FileSystem.Resolve
import Typings.Proofs.FileSystem.Tree

namespace Typings

/-- the location where a target is, or would be -/
def Target.location : Target → Location
  | .entry l _ => l
  | .absent l => l

def Target.isDirectory : Target → Bool
  | .entry _ e => e.isDirectory
  | .absent _ => false

/-- whether a target is what a file system has at its location -/
def Target.Holds (fs : FileSystem) : Target → Prop
  | .entry l e => fs.find? l = some e
  | .absent l => fs.find? l = none

namespace FileSystem

/-! ## One name -/

/-- what following does at a name of its own in a directory that is there -/
def enter (fs : FileSystem) (purpose : Purpose) (onLink : Bool → Location → List Text → Except OsCause Target)
    (opened : Bool) (start : Location) (name : Text) (rest : List Text) : Except OsCause Target :=
  match fs.find? (start ++ [name]) with
  | none => if rest.isEmpty then .ok (.absent (start ++ [name])) else .error .noEntry
  | some (.link target) =>
    if rest.isEmpty && !opened && purpose = .entry then .ok (.entry (start ++ [name]) (.link target))
    else onLink (opened || (rest.isEmpty && endsOpen target)) (startOf start target) (stepsOf target ++ rest)
  | some (.directory _) => follow fs purpose onLink opened (start ++ [name]) rest
  | some e => if rest.isEmpty && !opened then .ok (.entry (start ++ [name]) e) else .error .notDirectory

theorem follow_cons (fs : FileSystem) (purpose : Purpose)
    (onLink : Bool → Location → List Text → Except OsCause Target) (opened : Bool) (start : Location) (name : Text)
    (rest : List Text) :
    fs.follow purpose onLink opened start (name :: rest) =
      if name = (".." : Text) then fs.follow purpose onLink opened start.dropLast rest
      else if name = ("." : Text) then fs.follow purpose onLink opened start rest
      else if start.isGone then .error .noEntry
      else if nameLimit < octets name then .error .nameTooLong
      else if rest.isEmpty && opened && purpose = .creation then .error .isDirectory
      else fs.enter purpose onLink opened start name rest := rfl

theorem holdsDirectory_startOf {fs : FileSystem} {l : Location} (h : fs.holdsDirectory l) (path : Text) :
    fs.holdsDirectory (startOf l path) := by
  unfold startOf
  split_ifs
  · exact h
  · exact holdsDirectory_root fs

/-! ## What is found is there -/

theorem holdsDirectory_getD {fs : FileSystem} {l : Location} (h : fs.holdsDirectory l) :
    ∃ mode, fs.find? l = some (.directory mode) ∧
      (fs.find? l).getD (.directory usualMode) = .directory mode := by
  obtain ⟨mode, h⟩ := holdsDirectory_iff.1 h
  exact ⟨mode, h, by simp [h]⟩

theorem follow_holds {fs : FileSystem} (g : Grounded fs) {purpose : Purpose}
    {onLink : Bool → Location → List Text → Except OsCause Target}
    (hl : ∀ o s ns t, fs.holdsDirectory s → onLink o s ns = .ok t → t.Holds fs) {opened : Bool} {start : Location}
    (hs : fs.holdsDirectory start) {ns : List Text} {t : Target}
    (h : fs.follow purpose onLink opened start ns = .ok t) : t.Holds fs := by
  induction ns generalizing start with
  | nil =>
    obtain ⟨mode, hm, hd⟩ := holdsDirectory_getD hs
    simp only [follow, hd, Except.ok.injEq] at h
    subst h; exact hm
  | cons name rest ih =>
    rw [follow_cons] at h
    split_ifs at h with h1 h2 h3 h4 h5
    · exact ih (g.up _ hs) h
    · exact ih hs h
    · unfold enter at h
      split at h
      · rename_i hf
        split_ifs at h
        cases h; exact hf
      · rename_i target hf
        split_ifs at h
        · cases h; exact hf
        · exact hl _ _ _ _ (holdsDirectory_startOf hs target) h
      · rename_i hf
        exact ih (holdsDirectory_iff.2 ⟨_, hf⟩) h
      · rename_i hf
        split_ifs at h
        cases h; exact hf

theorem followLinks_holds {fs : FileSystem} (g : Grounded fs) {purpose : Purpose} {links : Nat} {opened : Bool}
    {start : Location} (hs : fs.holdsDirectory start) {ns : List Text} {t : Target}
    (h : fs.followLinks purpose links opened start ns = .ok t) : t.Holds fs := by
  induction links generalizing opened start ns t with
  | zero => exact follow_holds g (fun _ _ _ _ _ h => by cases h) hs h
  | succ links ih => exact follow_holds g (fun _ _ _ _ hs h => ih hs h) hs h

/-- a path can be followed from where it starts: it is absolute, or the working directory is there -/
def Starts (fs : FileSystem) (path : Text) : Prop := fs.holdsDirectory (startOf fs.cwd path) = true

theorem resolve_holds {fs : FileSystem} (g : Grounded fs) {purpose : Purpose} {path : Text} (hs : fs.Starts path)
    {t : Target} (h : fs.resolve purpose path = .ok t) : t.Holds fs := by
  unfold resolve at h
  split_ifs at h
  exact followLinks_holds g hs h

/-! ## The last name -/

/-- names that do not lead to a directory lead to the last of them, in a directory that is there -/
def EndsIn (fs : FileSystem) (ns : List Text) (t : Target) : Prop :=
  ∃ d n, t.location = d ++ [n] ∧ fs.holdsDirectory d ∧ ns.getLast? = some n ∧ n ≠ ("." : Text) ∧ n ≠ (".." : Text)

theorem EndsIn.of_suffix {fs : FileSystem} {ns ms : List Text} {t : Target} (h : fs.EndsIn ms t) (hm : ms ≠ []) :
    fs.EndsIn (ns ++ ms) t := by
  obtain ⟨d, n, h1, h2, h3, h4⟩ := h
  exact ⟨d, n, h1, h2, by rw [List.getLast?_append_of_ne_nil _ hm]; exact h3, h4⟩

theorem EndsIn.of_append {fs : FileSystem} {ns ms : List Text} {t : Target} (h : fs.EndsIn (ns ++ ms) t)
    (hm : ms ≠ []) : fs.EndsIn ms t := by
  obtain ⟨d, n, h1, h2, h3, h4⟩ := h
  exact ⟨d, n, h1, h2, by rwa [List.getLast?_append_of_ne_nil _ hm] at h3, h4⟩

theorem follow_last {fs : FileSystem} (g : Grounded fs)
    {onLink : Bool → Location → List Text → Except OsCause Target}
    (hl : ∀ s ns t, fs.holdsDirectory s → onLink false s ns = .ok t → t.isDirectory = false → fs.EndsIn ns t)
    {start : Location} (hs : fs.holdsDirectory start) {ns : List Text} {t : Target}
    (h : fs.follow .entry onLink false start ns = .ok t) (ht : t.isDirectory = false) : fs.EndsIn ns t := by
  induction ns generalizing start with
  | nil =>
    obtain ⟨mode, hm, hd⟩ := holdsDirectory_getD hs
    simp only [follow, hd, Except.ok.injEq] at h
    subst h; simp [Target.isDirectory, Entry.isDirectory] at ht
  | cons name rest ih =>
    have tail : fs.EndsIn rest t → fs.EndsIn (name :: rest) t := fun he => by
      have hr : rest ≠ [] := by rintro rfl; obtain ⟨_, _, _, _, h3, _⟩ := he; simp at h3
      exact (he.of_suffix hr : fs.EndsIn ([name] ++ rest) t)
    rw [follow_cons] at h
    split_ifs at h with h1 h2 h3 h4 h5
    · exact tail (ih (g.up _ hs) h)
    · exact tail (ih hs h)
    · have final : ∀ {t : Target}, rest = [] → t.location = start ++ [name] → fs.EndsIn (name :: rest) t :=
        fun hr hloc => ⟨start, name, hloc, hs, by simp [hr], h2, h1⟩
      unfold enter at h
      split at h
      · split_ifs at h with hr
        cases h; exact final (by simpa using hr) rfl
      · rename_i target hf
        split_ifs at h with hr
        · cases h; exact final (by simpa using hr) rfl
        · have hr : rest ≠ [] := by simpa using hr
          have he : rest.isEmpty = false := by simpa using hr
          simp only [he, Bool.false_and, Bool.or_false] at h
          exact tail ((hl _ _ _ (holdsDirectory_startOf hs target) h ht).of_append hr)
      · rename_i hf
        exact tail (ih (holdsDirectory_iff.2 ⟨_, hf⟩) h)
      · split_ifs at h with hr
        cases h; exact final (by simpa using hr) rfl

theorem followLinks_last {fs : FileSystem} (g : Grounded fs) {links : Nat} {start : Location}
    (hs : fs.holdsDirectory start) {ns : List Text} {t : Target}
    (h : fs.followLinks .entry links false start ns = .ok t) (ht : t.isDirectory = false) : fs.EndsIn ns t := by
  induction links generalizing start ns t with
  | zero => exact follow_last g (fun _ _ _ _ h => by cases h) hs h ht
  | succ links ih => exact follow_last g (fun _ _ _ hs h ht => ih hs h ht) hs h ht

theorem resolve_last {fs : FileSystem} (g : Grounded fs) {path : Text} (hs : fs.Starts path)
    (ho : endsOpen path = false) {t : Target} (h : fs.resolve .entry path = .ok t) (ht : t.isDirectory = false) :
    fs.EndsIn (stepsOf path) t := by
  unfold resolve at h
  split_ifs at h
  rw [ho] at h
  exact followLinks_last g hs h ht

end FileSystem
end Typings
