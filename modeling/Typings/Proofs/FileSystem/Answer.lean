/-
What a replacement answers.

A path is direct when it leads to an entry that is no link, to nothing in a directory that is there, or is too long.
The end of its replacement is then told by where two paths lead, its own and that of its temporary file.
- `Direct.resolve_eq`: a direct path leads where it led before, whatever happens at other places.
- `replace_eq_answer`: the temporary file's path is asked first, then the text, and then the path itself.
- `Direct.replace_put`: a replacement that succeeds puts a file that depends on the path and the mask only.
-/
import Typings.Proofs.FileSystem.Undisturbed

namespace Typings.Replace

open FileSystem

variable {fs fs' : FileSystem} {path : Path} {text : Text} {places : Set Location}

/-! ## Direct paths -/

/-- a path that leads to no link, and is refused at most for its length -/
def Direct (fs : FileSystem) (path : Path) : Prop :=
  (∀ k target, fs.resolve .entry path.toText ≠ .ok (.entry k (.link target))) ∧
    ∀ cause, fs.resolve .entry path.toText = .error cause → cause = .nameTooLong

/-- where a direct path leads does not depend on what happens elsewhere, if no link is touched -/
theorem Direct.resolve_eq (d : Direct fs path) (g : Grounded fs) (hs : fs.Starts path.toText)
    (h : AgreeOff places fs fs') (plain : ∀ k ∈ places, ∀ target, fs.find? k ≠ some (.link target))
    (off : ∀ t, fs.resolve .entry path.toText = .ok t → t.location ∉ places) {purpose : Purpose}
    (same : fs.resolve purpose path.toText = fs.resolve .entry path.toText) :
    fs'.resolve purpose path.toText = fs.resolve purpose path.toText := by
  rcases resolve_agrees h g purpose hs with ⟨he, -⟩ | ⟨m, hm, way, -, hr, -⟩
  · exact he
  · -- to meet a place is neither to lead off the places nor to be too long
    have hr := hr (Or.inl (plain m hm))
    rw [same] at hr
    cases hx : meet m (fs.find? m) way with
    | ok t => exact absurd (location_of_meet hx ▸ hm) (off t (hr.trans hx))
    | error cause =>
      obtain rfl := d.2 cause (hr.trans hx)
      cases way <;> cases hf : fs.find? m <;> simp [hf, meet] at hx

theorem Direct.resolve_target (d : Direct fs path) :
    fs.resolve .target path.toText = fs.resolve .entry path.toText :=
  FileSystem.resolve_target d.1

theorem Direct.congr (d : Direct fs path) (h : fs'.resolve .entry path.toText = fs.resolve .entry path.toText) :
    Direct fs' path := by
  simpa only [Direct, h] using d

theorem modeAt_congr (h : fs'.resolve .target path.toText = fs.resolve .target path.toText) :
    modeAt fs' path = modeAt fs path := by
  simp only [modeAt, entryAt, locate, h]

/-- where a path leads that names something, unless to a directory, a file can be renamed -/
theorem renamesTo_of_resolve (g : Grounded fs) (hp : path.IsProper) (hne : path.names ≠ [])
    (hs : fs.Starts path.toText) {t : Target} (ht : fs.resolve .entry path.toText = .ok t)
    (hd : t.isDirectory = false) : RenamesTo fs path t.location := by
  obtain ⟨d, m, -, -, hlast, h1, h2⟩ := resolve_last g hs (Path.endsOpen_toText hp hne) ht hd
  refine ⟨?_, t, ht, hd, rfl⟩
  simp only [endsNameless, hlast, Bool.or_eq_false_iff, beq_eq_false_iff_ne, ne_eq]
  exact ⟨h1, h2⟩

/-- a path never leads to its temporary file -/
theorem location_ne_temporary (g : Grounded fs) (hp : path.IsProper) (hne : path.names ≠ []) {l : Location}
    (hl : IsTemporary fs path l) {t : Target} (ht : fs.resolve .entry path.toText = .ok t) : t.location ≠ l := by
  have hs := hl.starts g hp
  rintro rfl
  have hd : t.isDirectory = false := by
    have habs := hl.absent g hp
    have hh := resolve_holds g hs ht
    cases t with
    | absent k => rfl
    | entry k e => exact absurd (habs.symm.trans hh) (by simp)
  exact hl.ne_place g hp g hs (renamesTo_of_resolve g hp hne hs ht hd) rfl

/-- the temporary file does not change where a direct path leads -/
theorem Direct.resolve_put (d : Direct fs path) (g : Grounded fs) (hp : path.IsProper) (hne : path.names ≠ [])
    {l : Location} (hl : IsTemporary fs path l) (octets : Bytes) (mode : Nat) {purpose : Purpose}
    (same : fs.resolve purpose path.toText = fs.resolve .entry path.toText) :
    (fs.put l (.file octets mode)).resolve purpose path.toText = fs.resolve purpose path.toText := by
  refine d.resolve_eq g (hl.starts g hp) (agreeOff_temporary g hp hl octets mode) (fun k hk target => ?_)
    (fun t ht => location_ne_temporary g hp hne hl ht) same
  rw [Set.mem_singleton_iff.1 hk, hl.absent g hp]
  simp

/-! ## Answers -/

/-- why no file can be renamed to a path -/
def renameRefusal (fs : FileSystem) (path : Text) : Option OsCause :=
  match fs.resolve .entry path with
  | .error cause => some cause
  | .ok found => if endsNameless path then some .busy else if found.isDirectory then some .isDirectory else none

/-- how a replacement ends -/
def answer (fs : FileSystem) (path : Path) (text : Text) : Except Crash Unit := do
  let temporary ← temporaryPath fs path
  match ← fs.locate .entry temporary with
  | .entry _ _ => throw (.os ⟨.noFreeName, none, none⟩)
  | .absent _ =>
    match Utf8.encode text with
    | .error fault => throw (.encoding fault)
    | .ok _ =>
      let _ ← modeAt fs path
      match renameRefusal fs path.toText with
      | some cause => throw (.os ⟨cause, some temporary, some path.toText⟩)
      | none => return

theorem renameRefusal_congr (h : fs'.resolve .entry path.toText = fs.resolve .entry path.toText) :
    renameRefusal fs' path.toText = renameRefusal fs path.toText := by
  simp only [renameRefusal, h]

/-- a rename that is refused -/
theorem rename_refused {s : State} {t : Text} {l : Location} (hl : s.temporary = some (t, l)) {cause : OsCause}
    (h : renameRefusal s.fs s.path.toText = some cause) :
    rename s = .error (.os ⟨cause, some t, some s.path.toText⟩) := by
  unfold renameRefusal at h
  unfold rename
  simp only [hl]
  cases hr : s.fs.resolve .entry s.path.toText with
  | error c =>
    rw [hr, Option.some.injEq] at h
    rw [← h]
  | ok found =>
    simp only [hr] at h
    split_ifs at h with hn hd
    · cases h
      simp only [hn, if_true]
    · cases h
      cases found with
      | absent k => simp [Target.isDirectory] at hd
      | entry k e =>
        cases e with
        | directory mode => simp [hn]
        | _ => simp [Target.isDirectory, Entry.isDirectory] at hd

theorem renamesTo_of_no_refusal (h : renameRefusal fs path.toText = none) : ∃ k, RenamesTo fs path k := by
  unfold renameRefusal at h
  cases hr : fs.resolve .entry path.toText with
  | error c => simp [hr] at h
  | ok found =>
    simp only [hr] at h
    split_ifs at h with hn hd
    exact ⟨found.location, by simpa using hn, found, hr, by simpa using hd, rfl⟩

/-- a replacement whose last step fails -/
theorem replace_of_rename (g : Grounded fs) (hp : path.IsProper) {t : Text} {l : Location} (hl : Makes fs path t l)
    {octets : Bytes} (ht : Utf8.encode text = .ok octets) {old : Option Nat}
    (ho : modeAt (fs.put l (.file octets 0o600)) path = .ok old) {c : Crash}
    (hc : rename (holding fs path text t l octets (old.getD fs.newMode) old none) = .error c) :
    (fs.replace path text).2 = .error c := by
  have hm : step .readMode (holding fs path text t l octets 0o600 none none) =
      .ok (holding fs path text t l octets 0o600 old none) := by rw [readMode_holding, ho]; rfl
  have hlast : step .rename (holding fs path text t l octets (old.getD fs.newMode) old none) = .error c := hc
  have hrun := run_holding g hp hl ht
  rw [runSteps_cons hm, runSteps_cons (clearMask_holding _ _ _ _ _), runSteps_cons (restoreMask_holding _ _ _ _ _),
    runSteps_cons (changeMode_holding (ne_nil_of_absent (hl.absent g hp)) _ _ _ _), runSteps_error hlast] at hrun
  exact congrArg Prod.snd (replace_of_cleanUp hrun)

/-- **A replacement of a direct path** ends as the two paths say. -/
theorem replace_eq_answer (g : Grounded fs) (hp : path.IsProper) (hne : path.names ≠ []) (d : Direct fs path)
    (text : Text) : (fs.replace path text).2 = answer fs path text := by
  have first : ∀ c, step .create (begun fs path text) = .error c → (fs.replace path text).2 = .error c :=
    fun c hc => congrArg Prod.snd (replace_of_cleanUp (runSteps_error hc _))
  unfold answer
  cases h1 : temporaryPath fs path with
  | error c => exact first c (by simp [step, create, begun, h1, bind, Except.bind])
  | ok t =>
    cases h2 : fs.locate .entry t with
    | error c =>
      simpa [h2, bind, Except.bind] using first c (by simp [step, create, begun, h1, h2, bind, Except.bind])
    | ok found =>
      cases found with
      | entry k e =>
        simpa [h2, bind, Except.bind, throw, throwThe, MonadExceptOf.throw] using
          first (.os ⟨.noFreeName, none, none⟩)
            (by simp [step, create, begun, h1, h2, bind, Except.bind, throw, throwThe, MonadExceptOf.throw])
      | absent l =>
        have made : Makes fs path t l := ⟨h1, h2⟩
        have hl := made.isTemporary
        simp only [h2, bind, Except.bind, throw, throwThe, MonadExceptOf.throw, pure, Except.pure]
        cases ht : Utf8.encode text with
        | error fault =>
          exact (replace_crash_iff g hp).2 (.content hl ht) |>.1
        | ok octets =>
          have hask : modeAt (fs.put l (.file octets 0o600)) path = modeAt fs path :=
            modeAt_congr (d.resolve_put g hp hne hl octets 0o600 d.resolve_target)
          simp only
          cases hm : modeAt fs path with
          | error c =>
            have hc : step .readMode (holding fs path text t l octets 0o600 none none) = .error c := by
              rw [readMode_holding, hask, hm]; rfl
            exact congrArg Prod.snd (replace_of_cleanUp ((run_holding g hp made ht).trans (runSteps_error hc _)))
          | ok old =>
            cases hr : renameRefusal fs path.toText with
            | none =>
              obtain ⟨k, hk⟩ := renamesTo_of_no_refusal hr
              exact (replace_ok_iff g hp).2 ⟨l, k, octets, old, hl, ht, hask.trans hm, hk⟩
            | some cause =>
              have hput := d.resolve_put g hp hne hl octets (old.getD fs.newMode) rfl
              exact replace_of_rename g hp made ht (hask.trans hm) (rename_refused rfl (by
                rw [← hr]
                exact renameRefusal_congr hput))

/-- where both paths lead to the same, replacements end the same -/
theorem answer_congr (hpath : temporaryPath fs' path = temporaryPath fs path)
    (htemp : ∀ t, temporaryPath fs path = .ok t → fs'.locate .entry t = fs.locate .entry t)
    (htarget : fs'.resolve .target path.toText = fs.resolve .target path.toText)
    (hentry : fs'.resolve .entry path.toText = fs.resolve .entry path.toText) :
    answer fs' path text = answer fs path text := by
  unfold answer
  rw [hpath, modeAt_congr htarget, renameRefusal_congr hentry]
  cases h : temporaryPath fs path with
  | error c => rfl
  | ok t => simp only [bind, Except.bind, htemp t h]

/-- a replacement ends early where something has the name of its temporary file -/
theorem answer_of_taken {t : Text} (ht : temporaryPath fs path = .ok t) (hu : unusable t = none) {k : Location}
    {e : Entry} (h : fs.resolve .entry t = .ok (.entry k e)) :
    answer fs path text = .error (.os ⟨.noFreeName, none, none⟩) := by
  simp [answer, ht, locate, hu, h, bind, Except.bind, throw, throwThe, MonadExceptOf.throw]

/-- a replacement ends early where its temporary file's path is refused -/
theorem answer_of_temporary {t : Text} (ht : temporaryPath fs path = .ok t) (hu : unusable t = none)
    {cause : OsCause} (h : fs.resolve .entry t = .error cause) :
    answer fs path text = .error (.os (cause.on t)) := by
  simp [answer, ht, locate, hu, h, bind, Except.bind]

/-! ## What is put -/

/-- the permissions that a file gets at a direct path -/
theorem Direct.granted (d : Direct fs path) (g : Grounded fs) (hp : path.IsProper) (hne : path.names ≠ [])
    {mode : Nat} (h : Granted fs path mode) : ∃ old, modeAt fs path = .ok old ∧ mode = old.getD fs.newMode := by
  cases h with
  | old h => exact ⟨_, h, rfl⟩
  | new h => exact ⟨_, h, rfl⟩
  | own h ht =>
    -- no link leads a direct path to its temporary file
    unfold leadsToTemporary at ht
    split at ht
    · cases ht
    · rename_i t h1
      split at ht
      · rename_i l k h2 h3
        rw [d.resolve_target] at h3
        exact absurd (by simpa using ht : l = k) (location_ne_temporary g hp hne ⟨t, h1, h2⟩ h3).symm
      · cases ht

/-- **What is put at a direct path** depends on the text, on where the path leads and on the mask. -/
theorem Direct.replace_put (d : Direct fs path) (g : Grounded fs) (g' : Grounded fs') (hp : path.IsProper)
    (hne : path.names ≠ []) (same : fs'.resolve .entry path.toText = fs.resolve .entry path.toText)
    (humask : fs'.umask = fs.umask) (h : (fs.replace path text).2 = .ok ())
    (h' : (fs'.replace path text).2 = .ok ()) :
    ∃ k octets mode, RenamesTo fs path k ∧ (fs.replace path text).1 = fs.put k (.file octets mode) ∧
      (fs'.replace path text).1 = fs'.put k (.file octets mode) := by
  have d' : Direct fs' path := d.congr same
  obtain ⟨k, octets, mode, hk, -, hnew⟩ := replaced_renamesTo g hp h
  obtain ⟨k', octets', mode', -, -, hnew'⟩ := replaced_renamesTo g' hp h'
  obtain rfl : k' = k := by
    have hplace : fs'.placeOf path.toText = fs.placeOf path.toText := by simp only [placeOf, same]
    exact Option.some.inj (hnew'.place.symm.trans (hplace.trans hnew.place))
  obtain rfl : octets' = octets := Except.ok.inj (hnew'.content.symm.trans hnew.content)
  obtain rfl : mode' = mode := by
    obtain ⟨old, hold, rfl⟩ := d.granted g hp hne hnew.granted
    obtain ⟨old', hold', rfl⟩ := d'.granted g' hp hne hnew'.granted
    have hask : modeAt fs' path = modeAt fs path :=
      modeAt_congr (d'.resolve_target.trans (same.trans d.resolve_target.symm))
    rw [hask, hold, Except.ok.injEq] at hold'
    simp only [hold', newMode, masked, humask]
  exact ⟨k', octets', mode', hk, hnew.changed, hnew'.changed⟩

end Typings.Replace
