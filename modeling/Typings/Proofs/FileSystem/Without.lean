/-
File systems without an entry, and what a file put in its place can hide.

A path that leads to an entry although nothing stands at a place does not go through that place, so it leads there
whatever file is put into it.
- `followLinks_put_of_erase`, `resolve_put_of_erase`: such a path leads to the same afterwards.
- `followLinks_before`: names before others lead to a directory if all of them lead to something.
-/
import Typings.Proofs.FileSystem.Descent

namespace Typings.FileSystem

variable {fs fs' : FileSystem} {k l : Location} {e : Entry}

/-! ## Erasing -/

/-- what is looked up among some of the entries, by their locations -/
theorem lookup_filter (f : Location → Bool) (k : Location) (es : List (Location × Entry)) :
    (es.filter fun x => f x.1).lookup k = if f k then es.lookup k else none := by
  induction es with
  | nil => simp
  | cons x es ih =>
    obtain ⟨j, d⟩ := x
    simp only [List.filter_cons]
    by_cases hk : k = j
    · subst hk
      cases hf : f k <;> simp [hf, ih]
    · have hb : (k == j) = false := by simpa using hk
      cases hf : f j <;> simp [List.lookup_cons, hb, ih]

theorem find?_erase_of_ne (fs : FileSystem) (h : k ≠ l) : (fs.erase l).find? k = fs.find? k := by
  simp [find?, erase, lookup_filter (fun j => j != l), h]

theorem find?_erase_self (fs : FileSystem) (hl : l ≠ []) : (fs.erase l).find? l = none := by
  simp [find?, erase, lookup_filter (fun j => j != l), hl]

/-- an entry that is no directory is taken away -/
theorem agreeOff_erase (h : fs.holdsDirectory k = false) : AgreeOff {k} fs (fs.erase k) where
  same j hj := find?_erase_of_ne fs hj
  before j hj := by rw [Set.mem_singleton_iff.1 hj]; exact h
  after j hj d hd := by
    rw [Set.mem_singleton_iff.1 hj, find?_erase_self fs (ne_nil_of_no_directory h)] at hd
    cases hd
  cwd := rfl
  choices := rfl

/-- and a file is put in its place -/
theorem agreeOff_erase_put (h : fs.holdsDirectory k = false) (hd : e.isDirectory = false)
    (hl : ∀ target, e ≠ .link target) : AgreeOff {k} (fs.erase k) (fs.put k e) :=
  (agreeOff_erase h).between (agreeOff_put h hd hl) subset_rfl

/-! ## Paths that do not need an entry -/

/-- names that lead to an entry, where nothing stands at the places, lead to it in both file systems -/
theorem Agrees.eq_of_entry {places : Set Location} {purpose : Purpose} {opened : Bool}
    {r r' : Except OsCause Target} {j : Location} (h : Agrees places fs fs' purpose opened r r')
    (hnone : ∀ k ∈ places, fs.find? k = none) (hr : r = .ok (.entry j e)) : r' = r := by
  rcases h with ⟨he, -⟩ | ⟨m, hm, way, -, hmeet, -⟩
  · exact he
  · have hmeet := hmeet (Or.inl fun target => by simp [hnone m hm])
    rw [hr, hnone m hm] at hmeet
    cases way <;> cases hmeet

theorem followLinks_put_of_erase (g : Grounded fs) (hk : fs.holdsDirectory k = false) (content : Bytes) (mode : Nat)
    {purpose : Purpose} {links : Nat} {opened : Bool} {start : Location} (hs : fs.holdsDirectory start = true)
    {ns : List Text} {j : Location} (h : (fs.erase k).followLinks purpose links opened start ns = .ok (.entry j e)) :
    (fs.put k (.file content mode)).followLinks purpose links opened start ns = .ok (.entry j e) := by
  have herase := agreeOff_erase hk
  have hagree : AgreeOff {k} (fs.erase k) (fs.put k (.file content mode)) := agreeOff_erase_put hk rfl (by simp)
  have hstart : (fs.erase k).holdsDirectory start = true := (herase.holdsDirectory _).trans hs
  rw [(followLinks_agrees hagree (herase.grounded g) links opened hstart ns).eq_of_entry ?_ h, h]
  rintro m rfl
  exact find?_erase_self fs (ne_nil_of_no_directory hk)

theorem resolve_put_of_erase (g : Grounded fs) (hk : fs.holdsDirectory k = false) (content : Bytes) (mode : Nat)
    {purpose : Purpose} {path : Text} (hs : fs.Starts path) {j : Location}
    (h : (fs.erase k).resolve purpose path = .ok (.entry j e)) :
    (fs.put k (.file content mode)).resolve purpose path = .ok (.entry j e) := by
  unfold resolve at h ⊢
  split_ifs at h ⊢
  exact followLinks_put_of_erase g hk content mode hs h

/-! ## Names before others -/

/-- names before others lead to a directory themselves, or through what a link leads to -/
theorem follow_before (g : Grounded fs) {purpose : Purpose}
    {onLink : Bool → Location → List Text → Except OsCause Target} {opened : Bool} {start : Location}
    (hs : fs.holdsDirectory start = true) {ns ms : List Text} (hm : ms ≠ []) {t : Target}
    (h : fs.follow purpose onLink opened start (ns ++ ms) = .ok t) :
    (∀ onLink' opened', ∃ d mode, fs.follow .target onLink' opened' start ns = .ok (.entry d (.directory mode))) ∨
    ∃ o s ns', fs.holdsDirectory s = true ∧ onLink o s (ns' ++ ms) = .ok t ∧ ∀ onLink' opened', ∃ o',
      fs.follow .target onLink' opened' start ns = onLink' o' s ns' := by
  induction ns generalizing start with
  | nil =>
    obtain ⟨mode, -, hd⟩ := holdsDirectory_getD hs
    exact Or.inl fun onLink' opened' => ⟨start, mode, by rw [follow, hd]⟩
  | cons name rest ih =>
    have hmore : (rest ++ ms).isEmpty = false := by simp [hm]
    rw [List.cons_append, follow_cons] at h
    simp only [follow_cons]
    split_ifs at h with h1 h2 h3 h4 h5
    · simpa only [if_pos h1] using ih (g.up _ hs) h
    · simpa only [if_neg h1, if_pos h2] using ih hs h
    · simp only [if_neg h1, if_neg h2, if_neg h3, if_neg h4, reduceCtorEq, decide_false, Bool.and_false,
        Bool.false_eq_true, if_false]
      unfold enter at h ⊢
      simp only [hmore, Bool.false_and, Bool.false_eq_true, if_false] at h
      cases hf : fs.find? (start ++ [name]) with
      | none =>
        rw [hf] at h
        cases h
      | some d =>
        rw [hf] at h
        cases d with
        | directory mode => exact ih (holdsDirectory_iff.2 ⟨_, hf⟩) h
        | link target =>
          simp only [← List.append_assoc] at h
          refine Or.inr ⟨_, _, _, holdsDirectory_startOf hs target, h, fun onLink' opened' => ?_⟩
          exact ⟨opened' || (rest.isEmpty && endsOpen target), by simp⟩
        | file content mode => cases h
        | pipe mode => cases h

/-- **Names before others** lead to a directory if all of them lead to something. -/
theorem followLinks_before (g : Grounded fs) {purpose : Purpose} {links : Nat} {opened : Bool} {start : Location}
    (hs : fs.holdsDirectory start = true) {ns ms : List Text} (hm : ms ≠ []) {t : Target}
    (h : fs.followLinks purpose links opened start (ns ++ ms) = .ok t) (opened' : Bool) :
    ∃ d mode, fs.followLinks .target links opened' start ns = .ok (.entry d (.directory mode)) := by
  induction links generalizing opened opened' start ns with
  | zero =>
    rcases follow_before g hs hm h with h | ⟨_, _, _, -, h, -⟩
    · exact h _ opened'
    · cases h
  | succ links ih =>
    rcases follow_before g hs hm h with h | ⟨o, s, ns', hs', h, hl⟩
    · exact h _ opened'
    · obtain ⟨o', ho'⟩ := hl (followLinks fs .target links) opened'
      obtain ⟨d, mode, hd⟩ := ih hs' h o'
      exact ⟨d, mode, ho'.trans hd⟩

end Typings.FileSystem
