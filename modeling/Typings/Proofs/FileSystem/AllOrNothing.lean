/-
Replacing a file is all or nothing.

- `run_all_or_nothing`: however a replacement is struck, the file system is the old one, or the old one with the
  complete new file at the place that the path names. The second is so when the replacement succeeds, and when an
  interrupt comes after the rename. The price: an interrupt before the guarded block leaves the temporary file, and one
  while the mask is cleared leaves it cleared.
- `permissions_of_temporary`: the permissions are asked for while the temporary file stands. A path that is a link to
  the temporary name finds that file, and the new one is left readable by its owner only.
-/
import Typings.Proofs.FileSystem.Replacement

namespace Typings

namespace FileSystem

/-- the location that a path names; a link there is not followed -/
def placeOf (fs : FileSystem) (path : Text) : Option Location :=
  match fs.resolve .entry path with
  | .ok t => some t.location
  | .error _ => none

end FileSystem

namespace Replace

open FileSystem

variable {fs : FileSystem} {path : Path} {text : Text}

/-! ## The temporary name -/

theorem candidate_eq (directory : Path) (name : Text) (draw : Draw) :
    ∃ a, candidate directory name draw = a ++ Path.slash :: temporaryName name draw := by
  unfold candidate
  cases hb : (directory.toText.getLast? != some Path.slash) with
  | true => exact ⟨directory.toText, by simp [Text.only]⟩
  | false =>
    have hl : directory.toText.getLast? = some Path.slash := by simpa using hb
    obtain ⟨a, ha⟩ := List.getLast?_eq_some_iff.1 hl
    exact ⟨a, by rw [ha]; simp [Text.only]⟩

theorem temporaryPath_eq {t : Text} (h : temporaryPath fs path = .ok t) :
    ∃ a draw, t = a ++ Path.slash :: temporaryName path.name draw := by
  obtain ⟨d, draw, -, rfl⟩ := temporaryPath_eq_ok h
  obtain ⟨a, ha⟩ := candidate_eq d.normalize path.name draw
  exact ⟨a, draw, ha⟩

/-- what follows the name in a temporary name -/
def temporaryEnd (draw : Draw) : Text := "." ++ draw.text ++ ".tmp"

theorem slash_not_mem_temporaryEnd (draw : Draw) : Path.slash ∉ temporaryEnd draw := by
  have hdraw : Path.slash ∉ draw.text := fun h => absurd (List.all_eq_true.1 draw.plain _ h) (by decide)
  simp only [temporaryEnd, List.mem_append, not_or]
  exact ⟨⟨by decide, hdraw⟩, by decide⟩

theorem lastPiece_temporaryName (name : Text) (draw : Draw) : Text.lastPiece Path.slash (temporaryName name draw) =
    Text.lastPiece Path.slash ("." ++ name) ++ temporaryEnd draw := by
  rw [← Text.lastPiece_append_of_not_mem (slash_not_mem_temporaryEnd draw)]
  simp [temporaryName, temporaryEnd]

/-- the last piece of a temporary name is longer than that of the name -/
theorem length_lastPiece_lt (name : Text) (draw : Draw) :
    (Text.lastPiece Path.slash name).length < (Text.lastPiece Path.slash (temporaryName name draw)).length := by
  have hle : (Text.lastPiece Path.slash name).length ≤ (Text.lastPiece Path.slash ("." ++ name)).length := by
    rcases Text.lastPiece_cases Path.slash name with ⟨hn, h⟩ | ⟨a, ha⟩
    · have : Path.slash ∉ ("." : Text) ++ name := by
        simp only [List.mem_append, hn, or_false]
        decide
      rw [h, Text.lastPiece_of_not_mem this]
      simp
    · have : ("." : Text) ++ name = (("." : Text) ++ a) ++ Path.slash :: Text.lastPiece Path.slash name := by
        rw [List.append_assoc, ← ha]
      rw [this, Text.lastPiece_of_append (Text.not_mem_lastPiece name)]
  have he : 0 < (temporaryEnd draw).length := by simp [temporaryEnd]
  rw [lastPiece_temporaryName, List.length_append]
  omega

theorem endsOpen_temporary (a name : Text) (draw : Draw) :
    endsOpen (a ++ Path.slash :: temporaryName name draw) = false := by
  have h : a ++ Path.slash :: temporaryName name draw =
      (a ++ Path.slash :: (("." : Text) ++ name ++ "." ++ draw.text)) ++ (".tmp" : Text) := by
    simp [temporaryName]
  rw [h, endsOpen, List.getLast?_append_of_ne_nil _ (by decide)]
  decide

theorem endsOpen_candidate (directory : Path) (name : Text) (draw : Draw) :
    endsOpen (candidate directory name draw) = false := by
  obtain ⟨a, ha⟩ := candidate_eq directory name draw
  rw [ha]
  exact endsOpen_temporary a name draw

/-- the path of a temporary file ends in its name -/
theorem endsOpen_temporaryPath {t : Text} (h : temporaryPath fs path = .ok t) : endsOpen t = false := by
  obtain ⟨d, draw, -, rfl⟩ := temporaryPath_eq_ok h
  exact endsOpen_candidate d.normalize path.name draw

/-- a path without names ends in none -/
theorem endsNameless_of_no_names (hp : path.IsProper) (h : path.names = []) : endsNameless path.toText = true := by
  by_cases hr : path.root = []
  · have : path.toText = ("." : Text) := by simp [Path.toText, h, hr]
    rw [this]; decide
  · have : path.toText = path.root := by simp [Path.toText, h, hr, Text.join]
    simp [endsNameless, this, Path.stepsOf_slashes hp.1]

/-- the temporary file is never where the path's own entry is -/
theorem IsTemporary.ne_place (g : Grounded fs) (hp : path.IsProper) {l k : Location} (hl : IsTemporary fs path l)
    {fs' : FileSystem} (g' : Grounded fs') (hs : fs'.Starts path.toText) (hk : RenamesTo fs' path k) : k ≠ l := by
  obtain ⟨t, h1, h2⟩ := hl
  obtain ⟨hn, u, hu, hd, rfl⟩ := hk
  obtain ⟨a, draw, rfl⟩ := temporaryPath_eq h1
  have hne : path.names ≠ [] := fun h => by simp [endsNameless_of_no_names hp h] at hn
  have hlong := length_lastPiece_lt path.name draw
  have htmp : Text.lastPiece Path.slash (a ++ Path.slash :: temporaryName path.name draw) =
      Text.lastPiece Path.slash (temporaryName path.name draw) := Text.lastPiece_append_sep _ _
  have hlast := Path.lastPiece_toText hp hne
  obtain ⟨d, n, e1, -, e2, -⟩ := resolve_last g (starts_of_temporaryPath g hp h1).1 (endsOpen_temporary a _ _)
    (locate_eq_ok h2).2 rfl
  obtain ⟨d', n', f1, -, f2, -⟩ := resolve_last g' hs (Path.endsOpen_toText hp hne) hu hd
  rw [Path.stepsOf_getLast? (by rw [htmp]; exact List.ne_nil_of_length_pos (by omega)), htmp,
    Option.some.injEq] at e2
  rw [Path.stepsOf_getLast? (by
    rw [hlast]; exact Path.lastPiece_ne_nil (hp.name hne).1 (hp.name hne).2), hlast, Option.some.injEq] at f2
  intro he
  have hsame : d ++ [n] = d' ++ [n'] := by rw [← e1, ← f1, he]; rfl
  obtain ⟨-, hsame⟩ := List.append_inj' hsame rfl
  rw [← e2, ← f2, List.cons.injEq] at hsame
  rw [hsame.1] at hlong
  omega

/-! ## Permissions -/

/-- whether links lead from the path to its own temporary name -/
def leadsToTemporary (fs : FileSystem) (path : Path) : Bool :=
  match temporaryPath fs path with
  | .error _ => false
  | .ok t =>
    match fs.locate .entry t, fs.resolve .target path.toText with
    | .ok (.absent l), .ok (.absent k) => l == k
    | _, _ => false

theorem leadsToTemporary_iff {l : Location} (hl : IsTemporary fs path l) :
    leadsToTemporary fs path = true ↔ fs.resolve .target path.toText = .ok (.absent l) := by
  obtain ⟨t, h1, h2⟩ := hl
  simp only [leadsToTemporary, h1, h2]
  cases fs.resolve .target path.toText with
  | error c => simp
  | ok r =>
    cases r with
    | entry k e => simp
    | absent k => simpa using eq_comm

theorem unusable_ne_os {t : Text} {c : Crash} (h : unusable t = some c) (e : OsError) : c ≠ .os e := by
  unfold unusable at h
  split_ifs at h
  · cases h; simp
  · split at h
    · obtain ⟨f, -, rfl⟩ := Option.map_eq_some_iff.1 h; simp
    · simp at h

theorem modeAt_unusable {c : Crash} (h : unusable path.toText = some c) : modeAt fs path = .error c := by
  have hc := unusable_ne_os h
  unfold modeAt entryAt locate
  simp only [h, bind, Except.bind]

theorem modeAt_usable {old : Option Nat} (h : modeAt fs path = .ok old) : unusable path.toText = none := by
  cases hu : unusable path.toText with
  | none => rfl
  | some c => rw [modeAt_unusable hu] at h; cases h

theorem modeAt_eq (h : unusable path.toText = none) :
    modeAt fs path = match fs.resolve .target path.toText with
      | .ok (.entry _ e) => .ok (some e.mode)
      | .ok (.absent _) => .ok none
      | .error c => if c = .noEntry then .ok none else .error (.os (c.on path.toText)) := by
  unfold modeAt entryAt locate
  simp only [h]
  cases fs.resolve .target path.toText with
  | error c => rfl
  | ok t => cases t <;> rfl

/-- the permissions of the new file -/
inductive Granted (fs : FileSystem) (path : Path) : Nat → Prop
  /-- those of what the path leads to -/
  | old {mode : Nat} (h : modeAt fs path = .ok (some mode)) : Granted fs path mode
  /-- those that the mask leaves, where the path leads to nothing -/
  | new (h : modeAt fs path = .ok none) (ht : leadsToTemporary fs path = false) : Granted fs path fs.newMode
  /-- those of the temporary file, where links lead to it -/
  | own (h : modeAt fs path = .ok none) (ht : leadsToTemporary fs path = true) : Granted fs path 0o600

/-- asking while the temporary file stands gives what asking before would have given, unless links lead to it -/
theorem granted_of_modeAt (g : Grounded fs) (hp : path.IsProper) {l : Location} (hl : IsTemporary fs path l)
    {octets : Bytes} {old : Option Nat} (ho : modeAt (fs.put l (.file octets 0o600)) path = .ok old) :
    Granted fs path (old.getD fs.newMode) := by
  have habs := hl.absent g hp
  have hs := hl.starts g hp
  have hagree : AgreeOff {l} fs (fs.put l (.file octets 0o600)) :=
    agreeOff_put (holdsDirectory_of_absent habs) rfl (by simp)
  have hput : (fs.put l (.file octets 0o600)).find? l = some (.file octets 0o600) :=
    find?_put_self fs (ne_nil_of_absent habs) _
  have hlead := leadsToTemporary_iff hl
  have hu := modeAt_usable ho
  rcases resolve_agrees hagree g .target hs with ⟨he, hoff⟩ | ⟨m, hm, way, he, hr, -⟩
  · have hsame : modeAt fs path = .ok old := by rw [← ho, modeAt_eq hu, modeAt_eq hu, he]
    cases old with
    | some mode => exact .old hsame
    | none => exact .new hsame (Bool.eq_false_iff.2 fun ht => hoff _ (hlead.1 ht) rfl)
  · rw [Set.mem_singleton_iff] at hm
    subst hm
    have hr := hr (Or.inl fun target => by simp [habs])
    rw [hput] at he
    rw [habs] at hr
    rw [modeAt_eq hu, he] at ho
    cases way with
    | last =>
      simp only [meet, Except.ok.injEq] at ho
      subst ho
      exact .own (by rw [modeAt_eq hu, hr]; rfl) (hlead.2 hr)
    | opened => simp [meet] at ho
    | onward => simp [meet] at ho

/-! ## The place of the new file -/

theorem agreeOff_temporary (g : Grounded fs) (hp : path.IsProper) {l : Location} (hl : IsTemporary fs path l)
    (octets : Bytes) (mode : Nat) : AgreeOff {l} fs (fs.put l (.file octets mode)) :=
  agreeOff_put (holdsDirectory_of_absent (hl.absent g hp)) rfl (by simp)

/-- the temporary file is not in the way -/
theorem renamesTo_put_iff (g : Grounded fs) (hp : path.IsProper) {l k : Location} (hl : IsTemporary fs path l)
    (octets : Bytes) (mode : Nat) : RenamesTo (fs.put l (.file octets mode)) path k ↔ RenamesTo fs path k := by
  have habs := hl.absent g hp
  have hagree := agreeOff_temporary g hp hl octets mode
  have hs := hl.starts g hp
  have hs' : (fs.put l (.file octets mode)).Starts path.toText := (hagree.holdsDirectory _).trans hs
  constructor
  · rintro hk
    have hkl := hl.ne_place g hp (hagree.grounded g) hs' hk
    obtain ⟨hn, t, ht, hd, rfl⟩ := hk
    refine ⟨hn, t, ?_, hd, rfl⟩
    rcases resolve_agrees hagree g .entry hs with ⟨he, -⟩ | ⟨m, hm, way, he, -, -⟩
    · rw [← he, ht]
    · rw [ht] at he
      exact absurd ((location_of_meet he.symm).trans hm) hkl
  · rintro hk
    have hkl := hl.ne_place g hp g hs hk
    obtain ⟨hn, t, ht, hd, rfl⟩ := hk
    refine ⟨hn, t, ?_, hd, rfl⟩
    rcases resolve_agrees hagree g .entry hs with ⟨he, -⟩ | ⟨m, hm, way, -, hr, -⟩
    · rw [he, ht]
    · rw [Set.mem_singleton_iff] at hm
      subst hm
      have hr := hr (Or.inl fun target => by simp [habs])
      rw [ht] at hr
      exact absurd (location_of_meet hr.symm) hkl

theorem RenamesTo.holdsDirectory (g : Grounded fs) (hs : fs.Starts path.toText) {k : Location}
    (hk : RenamesTo fs path k) : fs.holdsDirectory k = false := by
  obtain ⟨-, t, ht, hd, rfl⟩ := hk
  have hh := resolve_holds g hs ht
  cases t with
  | absent k => exact holdsDirectory_of_absent hh
  | entry k e =>
    have he : fs.find? k = some e := hh
    simpa [Target.location, FileSystem.holdsDirectory, he, Target.isDirectory] using hd

/-- what a replacement leaves: the new file stands at the place that the path names, with the octets of the text and
the permissions granted, and nothing else is changed -/
structure NewFile (fs : FileSystem) (path : Path) (text : Text) (k : Location) (octets : Bytes) (mode : Nat)
    (fs' : FileSystem) : Prop where
  place : fs.placeOf path.toText = some k
  content : Utf8.encode text = .ok octets
  granted : Granted fs path mode
  changed : fs' = fs.put k (.file octets mode)
  found : fs'.find? k = some (.file octets mode)
  others : ∀ j, j ≠ k → fs'.find? j = fs.find? j
  /-- the path leads to the new file, unless it led through the link that the file replaces -/
  reached : fs'.resolve .entry path.toText = .ok (.entry k (.file octets mode)) ∨
    (∃ target, fs.find? k = some (.link target)) ∧ fs'.resolve .entry path.toText = .error .notDirectory

/-- a file system with a file replaced -/
def Replaced (fs : FileSystem) (path : Path) (text : Text) (fs' : FileSystem) : Prop :=
  ∃ k octets mode, NewFile fs path text k octets mode fs'

theorem newFile_put (g : Grounded fs) (hp : path.IsProper) (hs : fs.Starts path.toText) {k : Location}
    (hk : RenamesTo fs path k) {octets : Bytes} (ht : Utf8.encode text = .ok octets) {mode : Nat}
    (hm : Granted fs path mode) : NewFile fs path text k octets mode (fs.put k (.file octets mode)) := by
  have hd := hk.holdsDirectory g hs
  have hput := find?_put_self fs (ne_nil_of_no_directory hd) (.file octets mode)
  have hagree : AgreeOff {k} fs (fs.put k (.file octets mode)) := agreeOff_put hd rfl (by simp)
  obtain ⟨hn, t, hr, -, rfl⟩ := hk
  refine ⟨by simp [placeOf, hr], ht, hm, rfl, hput, fun j hj => find?_put_of_ne fs hj _, ?_⟩
  rcases resolve_agrees hagree g .entry hs with ⟨-, hoff⟩ | ⟨m, hm, way, he, hr', ho⟩
  · exact absurd rfl (hoff t hr)
  · rw [Set.mem_singleton_iff] at hm
    subst hm
    rw [hput] at he
    cases way with
    | last => exact Or.inl he
    | opened =>
      have hne : path.names ≠ [] := fun h => by simp [endsNameless_of_no_names hp h] at hn
      simp [Path.endsOpen_toText hp hne] at ho
    | onward =>
      refine Or.inr ⟨?_, he⟩
      by_contra hlink
      have hr' := hr' (Or.inl fun target h => hlink ⟨target, h⟩)
      rw [hr] at hr'
      cases hf : fs.find? t.location <;> simp [hf, meet] at hr'

/-! ## The ends -/

theorem cleanUp_holding {t : Text} {l : Location} (hl : fs.find? l = none) (content : Bytes) (mode : Nat)
    (old mask : Option Nat) (halt : Halt) : (cleanUp (holding fs path text t l content mode old mask) halt).fs =
      { fs with umask := if mask.isSome then 0 else fs.umask } := by
  have hl : ({ fs with umask := if mask.isSome then 0 else fs.umask } : FileSystem).find? l = none := hl
  exact erase_put_of_absent hl _

/-- what an interrupt leaves that comes before a step, or after the last one -/
inductive InterruptLeaves (fs : FileSystem) (path : Path) (text : Text) : Option Step → FileSystem → Prop
  /-- the temporary file is not made yet, or is removed again -/
  | nothing {st : Step} (hst : st ≠ .guard) : InterruptLeaves fs path text (some st) fs
  /-- the temporary file is made, and the guarded block not entered -/
  | unguarded {l : Location} (hl : IsTemporary fs path l) :
      InterruptLeaves fs path text (some .guard) (fs.put l (.file [] 0o600))
  /-- the mask is cleared -/
  | unmasked : InterruptLeaves fs path text (some .restoreMask) { fs with umask := 0 }
  | replaced {fs' : FileSystem} (h : Replaced fs path text fs') : InterruptLeaves fs path text none fs'

/-- **The clean-up of a state before the rename** leaves the old file system, but for a temporary file that is not
guarded and for the mask while it is cleared. -/
theorem cleanUp_reached (g : Grounded fs) (hp : path.IsProper) {n : Nat} {s : State} (h : Reached fs path text n s)
    {st : Step} (hst : steps[n]? = some st) (halt : Halt) :
    InterruptLeaves fs path text (some st) (cleanUp s halt).fs := by
  have nothing {t : Text} {l : Location} (hl : Makes fs path t l) (hn : st ≠ .guard) (content : Bytes) (mode : Nat)
      (old : Option Nat) :
      InterruptLeaves fs path text (some st) (cleanUp (holding fs path text t l content mode old none) halt).fs := by
    rw [cleanUp_holding (hl.absent g hp)]
    exact .nothing hn
  cases h with
  | begun => cases hst; exact .nothing (by decide)
  | created hl => cases hst; exact .unguarded hl.isTemporary
  | guarded hl => cases hst; exact nothing hl (by decide) _ _ _
  | written hn hl =>
    refine nothing hl ?_ _ _ _
    rintro rfl
    obtain ⟨h3, h6⟩ := hn
    interval_cases n <;> cases hst
  | asked hn hl =>
    refine nothing hl ?_ _ _ _
    rintro rfl
    rcases hn with rfl | rfl <;> cases hst
  | @cleared t l octets old hl =>
    cases hst
    cases old with
    | some mode => exact nothing hl (by decide) _ _ _
    | none =>
      rw [cleanUp_holding (hl.absent g hp)]
      exact .unmasked
  | allowed hl => cases hst; exact nothing hl (by decide) _ _ _
  | renamed => cases hst

/-- after the last step the file is replaced, and the clean-up finds no temporary file -/
theorem replaced_of_reached (g : Grounded fs) (hp : path.IsProper) {s : State}
    (h : Reached fs path text steps.length s) :
    Replaced fs path text s.fs ∧ ∀ halt, (cleanUp s halt).fs = s.fs := by
  generalize hn : steps.length = n at h
  cases h with
  | @renamed t l k octets old hl ht ho hk =>
    have hs := hl.isTemporary.starts g hp
    have hk := (renamesTo_put_iff g hp hl.isTemporary _ _).1 hk
    have hkl := hl.isTemporary.ne_place g hp g hs hk
    refine ⟨⟨k, octets, _, newFile_put g hp hs hk ht (granted_of_modeAt g hp hl.isTemporary ho)⟩, fun halt => ?_⟩
    exact erase_of_absent ((find?_put_of_ne fs hkl.symm _).trans (hl.absent g hp))
  | written h => exact absurd (hn ▸ h.2) (by decide)
  | asked h => rcases h with h | h <;> exact absurd (hn.trans h) (by decide)
  | _ => exact absurd hn (by decide)

/-- a step that fails by itself or is refused is none of those that leave something -/
theorem eq_of_interruptLeaves {st : Step} {fs' : FileSystem} (h : InterruptLeaves fs path text (some st) fs')
    (h1 : st ≠ .guard) (h2 : st ≠ .restoreMask) : fs' = fs := by
  cases h with
  | nothing => rfl
  | unguarded => exact absurd rfl h1
  | unmasked => exact absurd rfl h2

/-- a step that fails by itself leaves nothing behind -/
theorem cleanUp_of_step_error (g : Grounded fs) (hp : path.IsProper) {n : Nat} {s : State} {st : Step} {c : Crash}
    (h : Reached fs path text n s) (hst : steps[n]? = some st) (hc : step st s = .error c) (halt : Halt) :
    (cleanUp s halt).fs = fs := by
  refine eq_of_interruptLeaves (cleanUp_reached g hp h hst halt) ?_ ?_ <;> rintro rfl <;> cases hc

/-- **A replacement is all or nothing.** When it succeeds, the file is replaced. When it fails, everything is exactly as
before. When it is interrupted, the file is replaced or not, and what else is left is told by the step before which
the interrupt came. -/
theorem run_all_or_nothing (wf : fs.WellFormed) (hp : path.IsProper) (text : Text) (strike : Option Strike) :
    let after := run fs path text strike
    (after.result = .ok () → Replaced fs path text after.fs ∧ after.fs.umask = fs.umask) ∧
    (∀ c, after.result = .error (.crash c) → after.fs = fs) ∧
    (after.result = .error .interrupt → ∃ n, strike = some (n, .interrupt) ∧ n ≤ steps.length ∧
      InterruptLeaves fs path text steps[n]? after.fs) := by
  intro after
  have g := wf.grounded
  have hend : Ended fs path text 0 strike after := run_ended g hp strike
  generalize after = out at hend
  cases hend with
  | finished h =>
    have hr := (replaced_of_reached g hp h).1
    refine ⟨fun _ => ⟨hr, ?_⟩, ?_, ?_⟩
    · obtain ⟨k, octets, mode, hnew⟩ := hr
      rw [hnew.changed]
      rfl
    · intro c hc
      cases hc
    · intro hi
      cases hi
  | @crashed m s st c h hst hc =>
    rw [cleanUp_result]
    refine ⟨?_, fun _ _ => cleanUp_of_step_error g hp h hst hc _, ?_⟩
    · intro hok
      cases hok
    · intro hi
      cases hi
  | @refused m s st e h _ hst he _ =>
    rw [cleanUp_result]
    refine ⟨?_, fun _ _ => ?_, ?_⟩
    · intro hok
      cases hok
    · -- neither the entrance to the guarded block nor the setting of the mask can be refused
      refine eq_of_interruptLeaves (cleanUp_reached g hp h hst _) ?_ ?_ <;> rintro rfl <;> cases he
    · intro hi
      cases hi
  | @interrupted m s h hm hs =>
    rw [cleanUp_result]
    refine ⟨?_, ?_, fun _ => ⟨m, hs, hm.2, ?_⟩⟩
    · intro hok
      cases hok
    · intro c hc
      cases hc
    · rcases Nat.lt_or_eq_of_le hm.2 with hlt | rfl
      · have hst := List.getElem?_eq_getElem hlt
        rw [hst]
        exact cleanUp_reached g hp h hst _
      · obtain ⟨hr, hfs⟩ := replaced_of_reached g hp h
        rw [hfs, List.getElem?_eq_none le_rfl]
        exact .replaced hr

/-- a replacement of `d/a` in a directory `d`, where the file can be written by its group: undisturbed, with a refusal
of the rename, and with interrupts before the guarded block, while the mask is set again and after the rename -/
theorem run_all_or_nothing_shared :
    let fs : FileSystem := ⟨[([("d" : Text)], .directory 0o755), (["d", "a"], .file [120] 0o664)], [], 0o022, [],
      .usual⟩
    let path : Path := ⟨[], ["d", "a"]⟩
    let after (strike : Option Strike) := (run fs path "y" strike).fs
    let refusal : Strike := (10, .refusal ⟨.permission, none, none⟩)
    fs.WellFormed ∧ path.IsProper ∧ Replaced fs path "y" (after none) ∧ (after none).umask = 0o022 ∧
      after (some refusal) = fs ∧
      InterruptLeaves fs path "y" (some .guard) (after (some (1, .interrupt))) ∧
      InterruptLeaves fs path "y" (some .restoreMask) (after (some (8, .interrupt))) ∧
      InterruptLeaves fs path "y" none (after (some (11, .interrupt))) := by
  intro fs path after refusal
  have wf : fs.WellFormed := by decide +kernel
  have hp : path.IsProper := by decide
  obtain ⟨hreplaced, humask⟩ := (run_all_or_nothing wf hp "y" none).1 (by decide +kernel)
  have interrupted (n : Nat) (h : (run fs path "y" (some (n, .interrupt))).result = .error .interrupt) :
      InterruptLeaves fs path "y" steps[n]? (after (some (n, .interrupt))) := by
    obtain ⟨m, hm, -, hleaves⟩ := (run_all_or_nothing wf hp "y" (some (n, .interrupt))).2.2 h
    cases hm
    exact hleaves
  exact ⟨wf, hp, hreplaced, humask,
    (run_all_or_nothing wf hp "y" (some refusal)).2.1 (.os ⟨.permission, none, none⟩) (by decide +kernel),
    interrupted 1 (by decide +kernel), interrupted 8 (by decide +kernel), interrupted 11 (by decide +kernel)⟩

/-- the link `a` leads to its own temporary name, at which nothing stands: the new file is its owner's only, not what
the mask leaves -/
theorem permissions_of_temporary :
    let fs : FileSystem := ⟨[([("a" : Text)], .link ".a.00000000.tmp")], [], 0o022, [], .usual⟩
    let path : Path := ⟨[], ["a"]⟩
    fs.WellFormed ∧ path.IsProper ∧ modeAt fs path = .ok none ∧ fs.newMode = 0o644 ∧
      (run fs path "x" none).result = .ok () ∧
      (run fs path "x" none).fs.find? [("a" : Text)] = some (.file [120] 0o600) := by
  decide +kernel

end Replace
end Typings
