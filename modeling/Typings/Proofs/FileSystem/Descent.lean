/-
Descent: what lies below a directory that a path leads to.

- `followLinks_append`: names that lead to a directory, with more names behind, lead where those lead from there.
- `follow_down`: names of directories that are there are followed one by one.
- `followLinks_name`: a last name that is no link leads to what stands under it.
-/
import Typings.Proofs.FileSystem.Agreement
import Typings.Proofs.Path.Steps

namespace Typings

/-- what a name leads to that is no link, by what stands under it -/
def Target.at (l : Location) : Option Entry → Target
  | none => .absent l
  | some e => .entry l e

@[simp] theorem Target.location_at (l : Location) (found : Option Entry) : (Target.at l found).location = l := by
  cases found <;> rfl

namespace FileSystem

variable {fs : FileSystem} {purpose : Purpose}

/-! ## Names behind a directory -/

/-- names that lead to a directory lead there themselves, or through what a link leads to -/
theorem follow_append {onLink : Bool → Location → List Text → Except OsCause Target} {opened : Bool}
    {start d : Location} {e : Entry} (he : e.isDirectory = true) {ns : List Text}
    (h : fs.follow .target onLink opened start ns = .ok (.entry d e)) :
    (∀ purpose onLink' opened' ms, ms ≠ [] →
      fs.follow purpose onLink' opened' start (ns ++ ms) = fs.follow purpose onLink' opened' d ms) ∨
    ∃ o s ns', onLink o s ns' = .ok (.entry d e) ∧ ∀ purpose onLink' opened' ms, ms ≠ [] →
      fs.follow purpose onLink' opened' start (ns ++ ms) = onLink' opened' s (ns' ++ ms) := by
  induction ns generalizing start with
  | nil =>
    simp only [follow, Except.ok.injEq, Target.entry.injEq] at h
    exact Or.inl fun _ _ _ _ _ => by rw [h.1]; rfl
  | cons name rest ih =>
    rw [follow_cons] at h
    simp only [List.cons_append, follow_cons]
    split_ifs at h with h1 h2 h3 h4 h5
    · simpa only [if_pos h1] using ih h
    · simpa only [if_neg h1, if_pos h2] using ih h
    · have more {ms : List Text} (hm : ms ≠ []) : (rest ++ ms).isEmpty = false := by simp [hm]
      simp only [if_neg h1, if_neg h2, if_neg h3, if_neg h4]
      unfold enter at h ⊢
      split at h
      · split_ifs at h
        cases h
      · rename_i target hf
        simp only [reduceCtorEq, decide_false, Bool.and_false, Bool.false_eq_true, if_false] at h
        refine Or.inr ⟨_, _, _, h, fun purpose onLink' opened' ms hm => ?_⟩
        simp [more hm]
      · rename_i hf
        rcases ih h with h | ⟨o, s, ns', h, hl⟩
        · refine Or.inl fun purpose onLink' opened' ms hm => ?_
          simpa [hf, more hm] using h purpose onLink' opened' ms hm
        · refine Or.inr ⟨o, s, ns', h, fun purpose onLink' opened' ms hm => ?_⟩
          simpa [hf, more hm] using hl purpose onLink' opened' ms hm
      · rename_i d' _ hd hf
        split_ifs at h
        cases h
        exact absurd he (by cases e <;> simp_all [Entry.isDirectory])

/-- **Names behind a directory** lead where they lead from there; only fewer links may be left. -/
theorem followLinks_append {links : Nat} {opened : Bool} {start d : Location} {e : Entry}
    (he : e.isDirectory = true) {ns : List Text}
    (h : fs.followLinks .target links opened start ns = .ok (.entry d e)) :
    ∃ left, ∀ purpose opened' ms, ms ≠ [] →
      fs.followLinks purpose links opened' start (ns ++ ms) = fs.followLinks purpose left opened' d ms := by
  induction links generalizing opened start ns with
  | zero =>
    rcases follow_append he h with h | ⟨_, _, _, h, -⟩
    · exact ⟨0, fun purpose opened' ms hm => h purpose _ opened' ms hm⟩
    · cases h
  | succ links ih =>
    rcases follow_append he h with h | ⟨o, s, ns', h, hl⟩
    · exact ⟨links + 1, fun purpose opened' ms hm => h purpose _ opened' ms hm⟩
    · obtain ⟨left, hleft⟩ := ih h
      exact ⟨left, fun purpose opened' ms hm => (hl purpose _ opened' ms hm).trans (hleft purpose opened' ms hm)⟩

/-! ## Directories that are there -/

/-- all directories on the way from a location through names -/
def HoldsDown (fs : FileSystem) (l : Location) (ns : List Text) : Prop :=
  (∀ m, m <+: ns → fs.holdsDirectory (l ++ m) = true) ∧ ∀ n ∈ ns, isEntryName n = true

theorem HoldsDown.tail {l : Location} {n : Text} {ns : List Text} (h : fs.HoldsDown l (n :: ns)) :
    fs.HoldsDown (l ++ [n]) ns :=
  ⟨fun m hm => by simpa using h.1 (n :: m) (List.cons_prefix_cons.2 ⟨rfl, hm⟩),
    fun m hm => h.2 m (List.mem_cons_of_mem _ hm)⟩

/-- a directory stands below directories that are there -/
theorem WellFormed.holdsDown_of_directory (wf : fs.WellFormed) {l : Location} {ns : List Text}
    (h : fs.holdsDirectory (l ++ ns) = true) : fs.HoldsDown l ns := by
  obtain ⟨mode, hf⟩ := holdsDirectory_iff.1 h
  refine ⟨fun m hm => ?_, fun k hk => wf.name_ok hf (by simp [hk])⟩
  obtain ⟨r, rfl⟩ := hm
  clear hf
  induction r using List.reverseRecOn with
  | nil => simpa using h
  | append_singleton r a ih =>
    have hup := wf.grounded.up _ h
    rw [← List.append_assoc, ← List.append_assoc, List.dropLast_concat] at hup
    exact ih (by rwa [List.append_assoc] at hup)

/-- what stands below a location stands in directories that are there -/
theorem WellFormed.holdsDown (wf : fs.WellFormed) {l : Location} {ns : List Text} {n : Text} {e : Entry}
    (h : fs.find? (l ++ ns ++ [n]) = some e) : fs.HoldsDown l ns :=
  wf.holdsDown_of_directory (by simpa using wf.up h)

theorem follow_down {onLink : Bool → Location → List Text → Except OsCause Target} {opened : Bool}
    (g : Grounded fs) {l : Location} {ns : List Text} (h : fs.HoldsDown l ns) {ms : List Text} (hm : ms ≠ []) :
    fs.follow purpose onLink opened l (ns ++ ms) = fs.follow purpose onLink opened (l ++ ns) ms := by
  induction ns generalizing l with
  | nil => simp
  | cons n ns ih =>
    have hl : fs.holdsDirectory l = true := by simpa using h.1 [] List.nil_prefix
    obtain ⟨hn0, -, hn1, hn2, hn3⟩ := isEntryName_iff.1 (h.2 n List.mem_cons_self)
    obtain ⟨mode, hf⟩ := holdsDirectory_iff.1 (h.1 [n] ⟨ns, rfl⟩)
    have hrest : (ns ++ ms).isEmpty = false := by simp [hm]
    rw [List.cons_append, follow_cons, if_neg hn2, if_neg hn1, if_neg (by simp [g.here l hl]),
      if_neg (Nat.not_lt.2 hn3), hrest]
    simp only [Bool.false_and, Bool.false_eq_true, if_false, enter, hf]
    rw [ih h.tail, List.append_assoc]
    rfl

theorem followLinks_down (g : Grounded fs) (links : Nat) (opened : Bool) {l : Location} {ns : List Text}
    (h : fs.HoldsDown l ns) {ms : List Text} (hm : ms ≠ []) :
    fs.followLinks purpose links opened l (ns ++ ms) = fs.followLinks purpose links opened (l ++ ns) ms := by
  cases links <;> exact follow_down g h hm

/-! ## Last names -/

/-- a last name leads to what stands under it, unless that is a link to be followed -/
theorem followLinks_name (g : Grounded fs) {l : Location} (hl : fs.holdsDirectory l = true) {n : Text}
    (h1 : n ≠ ("." : Text)) (h2 : n ≠ (".." : Text))
    (hn : purpose = .entry ∨ ∀ target, fs.find? (l ++ [n]) ≠ some (.link target)) (links : Nat) :
    fs.followLinks purpose links false l [n] =
      if nameLimit < octets n then .error .nameTooLong else .ok (.at (l ++ [n]) (fs.find? (l ++ [n]))) := by
  have enters : ∀ onLink, fs.enter purpose onLink false l n [] = .ok (.at (l ++ [n]) (fs.find? (l ++ [n]))) := by
    intro onLink
    unfold enter
    cases hf : fs.find? (l ++ [n]) with
    | none => rfl
    | some e =>
      cases e with
      | link target =>
        rcases hn with rfl | hn
        · rfl
        · exact absurd hf (hn target)
      | directory mode => simp [follow, hf, Target.at]
      | _ => rfl
  cases links <;>
    simp only [followLinks, follow_cons, if_neg h1, if_neg h2, g.here l hl, Bool.false_eq_true, if_false, enters,
      List.isEmpty_nil, Bool.and_false, Bool.false_and]

/-! ## Purposes -/

/-- where names do not lead to a link, they lead to the same for the entry and for its target -/
theorem follow_target {onLink onLink' : Bool → Location → List Text → Except OsCause Target}
    (hl : ∀ o s ns, (∀ k target, onLink o s ns ≠ .ok (.entry k (.link target))) → onLink' o s ns = onLink o s ns)
    {opened : Bool} {start : Location} {ns : List Text}
    (h : ∀ k target, fs.follow .entry onLink opened start ns ≠ .ok (.entry k (.link target))) :
    fs.follow .target onLink' opened start ns = fs.follow .entry onLink opened start ns := by
  induction ns generalizing start with
  | nil => rfl
  | cons n ns ih =>
    simp only [follow_cons, reduceCtorEq, decide_false, Bool.and_false, Bool.false_eq_true, if_false] at h ⊢
    split_ifs at h ⊢ with h1 h2
    · exact ih h
    · exact ih h
    · rfl
    · rfl
    · unfold enter at h ⊢
      cases hf : fs.find? (start ++ [n]) with
      | none => rfl
      | some e =>
        rw [hf] at h
        cases e with
        | link target =>
          simp only [decide_true, Bool.and_true, reduceCtorEq, decide_false, Bool.and_false, Bool.false_eq_true,
            if_false] at h ⊢
          split_ifs at h ⊢ with hr
          · exact absurd rfl (h _ _)
          · exact hl _ _ _ h
        | directory mode => exact ih h
        | _ => rfl

theorem followLinks_target {links : Nat} {opened : Bool} {start : Location} {ns : List Text}
    (h : ∀ k target, fs.followLinks .entry links opened start ns ≠ .ok (.entry k (.link target))) :
    fs.followLinks .target links opened start ns = fs.followLinks .entry links opened start ns := by
  induction links generalizing opened start ns with
  | zero => exact follow_target (fun _ _ _ _ => rfl) h
  | succ links ih => exact follow_target (fun _ _ _ h => ih h) h

theorem resolve_target {path : Text} (h : ∀ k target, fs.resolve .entry path ≠ .ok (.entry k (.link target))) :
    fs.resolve .target path = fs.resolve .entry path := by
  unfold resolve at h ⊢
  split_ifs at h ⊢
  · rfl
  · rfl
  · exact followLinks_target h

end FileSystem
end Typings
