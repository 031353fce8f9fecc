/-
Resolution under change: where a path leads once some files have come, gone or been replaced.

Two file systems agree off a set of places when all other locations hold the same and no place holds a directory,
nor, in the second one, a link.
- `resolve_agrees`: a path leads to the same in both, unless its names meet a place; then they meet it in the same
  way in both: as their last, as their last before a slash, or on the way to another.

A place may have been a link in the first file system. A path that went through that link is refused in the second
one, so nothing is said of where it led before.
-/
import Typings.Proofs.FileSystem.Resolution

namespace Typings.FileSystem

/-- how the names of a path meet a location -/
inductive Way
  /-- as their last -/
  | last
  /-- as their last, with a slash behind -/
  | opened
  /-- on the way to another -/
  | onward
  deriving DecidableEq, Repr

/-- where names lead that meet a location at which nothing or no directory stands -/
def meet (l : Location) (found : Option Entry) (way : Way) : Except OsCause Target :=
  match way, found with
  | .last, none => .ok (.absent l)
  | .last, some e => .ok (.entry l e)
  | .opened, none => .ok (.absent l)
  | .opened, some _ => .error .notDirectory
  | .onward, none => .error .noEntry
  | .onward, some _ => .error .notDirectory

theorem location_of_meet {l : Location} {found : Option Entry} {way : Way} {t : Target}
    (h : meet l found way = .ok t) : t.location = l := by
  cases way <;> cases found <;> simp only [meet, Except.ok.injEq, reduceCtorEq] at h <;> subst h <;> rfl

/-- all is the same off some places, and no directory stands there before or after, nor a link after -/
structure AgreeOff (places : Set Location) (fs fs' : FileSystem) : Prop where
  same : ∀ l, l ∉ places → fs'.find? l = fs.find? l
  before : ∀ l ∈ places, fs.holdsDirectory l = false
  after : ∀ l ∈ places, ∀ e, fs'.find? l = some e → e.isDirectory = false ∧ ∀ target, e ≠ .link target
  cwd : fs'.cwd = fs.cwd
  choices : fs'.choices = fs.choices

theorem AgreeOff.refl (fs : FileSystem) : AgreeOff ∅ fs fs := ⟨fun _ _ => rfl, by simp, by simp, rfl, rfl⟩

/-- a file or a pipe is put where no directory stands -/
theorem agreeOff_put {fs : FileSystem} {l : Location} {e : Entry} (hl : fs.holdsDirectory l = false)
    (hd : e.isDirectory = false) (ht : ∀ target, e ≠ .link target) : AgreeOff {l} fs (fs.put l e) where
  same k hk := find?_put_of_ne fs hk e
  before k hk := by rw [Set.mem_singleton_iff.1 hk]; exact hl
  after k hk d hf := by
    rw [Set.mem_singleton_iff.1 hk, find?_put_self fs (ne_nil_of_no_directory hl), Option.some.injEq] at hf
    subst hf; exact ⟨hd, ht⟩
  cwd := rfl
  choices := rfl

theorem holdsDirectory_of_absent {fs : FileSystem} {l : Location} (h : fs.find? l = none) :
    fs.holdsDirectory l = false := by
  simp [FileSystem.holdsDirectory, h]

/-- two results agree: they are the same and concern no place, or both meet a place in the same way -/
def Agrees (places : Set Location) (fs fs' : FileSystem) (purpose : Purpose) (opened : Bool)
    (r r' : Except OsCause Target) : Prop :=
  (r' = r ∧ ∀ t, r = .ok t → t.location ∉ places) ∨
  ∃ l ∈ places, ∃ way, r' = meet l (fs'.find? l) way ∧
    ((∀ target, fs.find? l ≠ some (.link target)) ∨ purpose = .entry ∧ way = .last → r = meet l (fs.find? l) way) ∧
    (way = .opened → purpose = .entry → opened = true)

variable {places : Set Location} {fs fs' : FileSystem} {purpose : Purpose}

theorem AgreeOff.holdsDirectory (h : AgreeOff places fs fs') (l : Location) :
    fs'.holdsDirectory l = fs.holdsDirectory l := by
  by_cases hl : l ∈ places
  · rw [h.before l hl]
    cases hf : fs'.find? l with
    | none => simp [FileSystem.holdsDirectory, hf]
    | some e => simp [FileSystem.holdsDirectory, hf, (h.after l hl e hf).1]
  · simp [FileSystem.holdsDirectory, h.same l hl]

theorem AgreeOff.grounded (h : AgreeOff places fs fs') (g : Grounded fs) : Grounded fs' where
  up l hl := by rw [h.holdsDirectory] at hl ⊢; exact g.up l hl
  here l hl := g.here l (by rwa [h.holdsDirectory] at hl)
  seated := by rw [h.cwd, h.holdsDirectory]; exact g.seated

/-- two file systems that agree with a third one agree with each other, off the places of both -/
theorem AgreeOff.between {places' : Set Location} {cur : FileSystem} (h : AgreeOff places fs cur)
    (h' : AgreeOff places' fs fs') (hsub : places ⊆ places') : AgreeOff places' cur fs' where
  same k hk := by rw [h'.same k hk, h.same k fun hm => hk (hsub hm)]
  before k hk := by rw [h.holdsDirectory]; exact h'.before k hk
  after := h'.after
  cwd := h'.cwd.trans h.cwd.symm
  choices := h'.choices.trans h.choices.symm

/-- the last name before a slash is one only if a slash stood behind, or a link's target brought it -/
theorem Agrees.of_opened {r r' : Except OsCause Target} {opened opened' : Bool}
    (h : Agrees places fs fs' purpose opened' r r') (ho : purpose = .entry → opened' = true → opened = true) :
    Agrees places fs fs' purpose opened r r' := by
  rcases h with h | ⟨l, hl, way, h1, h2, h3⟩
  · exact Or.inl h
  · exact Or.inr ⟨l, hl, way, h1, h2, fun hw hp => ho hp (h3 hw hp)⟩

/-- names that meet a place -/
theorem enter_place (h : AgreeOff places fs fs') {onLink onLink' : Bool → Location → List Text → Except OsCause Target}
    {opened : Bool} {start : Location} {name : Text} {rest : List Text} (hp : start ++ [name] ∈ places) :
    Agrees places fs fs' purpose opened (fs.enter purpose onLink opened start name rest)
      (fs'.enter purpose onLink' opened start name rest) := by
  refine Or.inr ⟨start ++ [name], hp, if rest.isEmpty then if opened then .opened else .last else .onward, ?_, ?_, ?_⟩
  · cases hf : fs'.find? (start ++ [name]) with
    | none => cases hr : rest.isEmpty <;> cases opened <;> simp [enter, hf, hr, meet]
    | some e =>
      obtain ⟨hd, hl⟩ := h.after _ hp e hf
      cases e with
      | directory mode => simp [Entry.isDirectory] at hd
      | link target => exact absurd rfl (hl target)
      | _ => cases hr : rest.isEmpty <;> cases opened <;> simp [enter, hf, hr, meet]
  · intro hn
    cases hf : fs.find? (start ++ [name]) with
    | none => cases hr : rest.isEmpty <;> cases opened <;> simp [enter, hf, hr, meet]
    | some e =>
      cases e with
      | directory mode =>
        have := h.before _ hp
        simp [FileSystem.holdsDirectory, hf, Entry.isDirectory] at this
      | link target =>
        rcases hn with hn | ⟨hn, hw⟩
        · exact absurd hf (hn target)
        · cases hr : rest.isEmpty <;> cases opened <;> simp_all [enter, meet]
      | _ => cases hr : rest.isEmpty <;> cases opened <;> simp [enter, hf, hr, meet]
  · intro hw _
    cases hr : rest.isEmpty <;> cases opened <;> simp_all

theorem follow_agrees (h : AgreeOff places fs fs') (g : Grounded fs)
    {onLink onLink' : Bool → Location → List Text → Except OsCause Target}
    (hl : ∀ o s ns, fs.holdsDirectory s → Agrees places fs fs' purpose o (onLink o s ns) (onLink' o s ns))
    (opened : Bool) {start : Location} (hs : fs.holdsDirectory start) (ns : List Text) :
    Agrees places fs fs' purpose opened (fs.follow purpose onLink opened start ns)
      (fs'.follow purpose onLink' opened start ns) := by
  have error : ∀ c, Agrees places fs fs' purpose opened (.error c) (.error c) := fun c => Or.inl ⟨rfl, by simp⟩
  induction ns generalizing start with
  | nil =>
    have hp : start ∉ places := fun hp => by rw [h.before start hp] at hs; cases hs
    refine Or.inl ⟨by simp only [follow, h.same start hp], fun t ht => ?_⟩
    simp only [follow, Except.ok.injEq] at ht
    subst ht; exact hp
  | cons name rest ih =>
    rw [follow_cons, follow_cons]
    split_ifs with h1 h2 h3 h4 h5
    · exact ih (g.up _ hs)
    · exact ih hs
    · exact error _
    · exact error _
    · exact error _
    · by_cases hp : start ++ [name] ∈ places
      · exact enter_place h hp
      · unfold enter
        rw [h.same _ hp]
        split
        · split_ifs
          · exact Or.inl ⟨rfl, fun t ht => by cases ht; exact hp⟩
          · exact error _
        · rename_i target _
          split_ifs with hr
          · exact Or.inl ⟨rfl, fun t ht => by cases ht; exact hp⟩
          · refine (hl _ _ _ (holdsDirectory_startOf hs target)).of_opened fun hp ho => ?_
            cases opened
            · simp_all
            · rfl
        · rename_i hf
          exact ih (holdsDirectory_iff.2 ⟨_, hf⟩)
        · split_ifs
          · exact Or.inl ⟨rfl, fun t ht => by cases ht; exact hp⟩
          · exact error _

theorem followLinks_agrees (h : AgreeOff places fs fs') (g : Grounded fs) (links : Nat) (opened : Bool)
    {start : Location} (hs : fs.holdsDirectory start) (ns : List Text) :
    Agrees places fs fs' purpose opened (fs.followLinks purpose links opened start ns)
      (fs'.followLinks purpose links opened start ns) := by
  induction links generalizing opened start ns with
  | zero => exact follow_agrees h g (fun _ _ _ _ => Or.inl ⟨rfl, by simp⟩) opened hs ns
  | succ links ih => exact follow_agrees h g (fun o s ns hs => ih o hs ns) opened hs ns

/-- **Resolution under change.** A path leads to the same before and after, or meets a place in the same way. -/
theorem resolve_agrees (h : AgreeOff places fs fs') (g : Grounded fs) (purpose : Purpose) {path : Text}
    (hs : fs.Starts path) :
    Agrees places fs fs' purpose (endsOpen path) (fs.resolve purpose path) (fs'.resolve purpose path) := by
  unfold resolve
  split_ifs
  · exact Or.inl ⟨rfl, by simp⟩
  · exact Or.inl ⟨rfl, by simp⟩
  · rw [h.cwd]
    exact followLinks_agrees h g _ _ hs _

end Typings.FileSystem
