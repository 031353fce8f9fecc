/-
The order of entries, and what it makes of a file system.

- `Location.before_trans`, `Location.before_total`: whatever order the system lists directories in, the order of a walk
  is a strict linear one.
- `WellFormed.ext`: a well-formed file system is told by what stands at each location, its working directory, its mask,
  the directories that cannot be listed and the choices of the system.
- `WellFormed.put`: a new entry under a name in a directory keeps a file system well-formed.
-/
import Typings.Proofs.FileSystem.Tree

namespace Typings

/-! ## The order of a walk -/

namespace Location

variable {o : ListingOrder} {d : Location}

theorem before_cons {a b : Text} {r s : Location} :
    before o d (a :: r) (b :: s) = true ↔ o.before d a b = true ∨ a = b ∧ before o (d ++ [a]) r s = true := by
  simp [before]

theorem before_trans {k l m : Location} (h : before o d k l = true) (h' : before o d l m = true) :
    before o d k m = true := by
  induction k generalizing d l m with
  | nil =>
    cases m with
    | nil => cases l <;> cases h'
    | cons c m => rfl
  | cons a k ih =>
    cases l with
    | nil => cases h
    | cons b l =>
      cases m with
      | nil => cases h'
      | cons c m =>
        rw [before_cons] at h h' ⊢
        rcases h with h | ⟨rfl, h⟩
        · rcases h' with h' | ⟨rfl, -⟩
          · exact Or.inl (o.trans d a b c h h')
          · exact Or.inl h
        · exact h'.imp id fun ⟨hc, h'⟩ => ⟨hc, ih h h'⟩

theorem before_total {k l : Location} (h : k ≠ l) : before o d k l = true ∨ before o d l k = true := by
  induction k generalizing d l with
  | nil =>
    cases l with
    | nil => exact absurd rfl h
    | cons b l => exact Or.inl rfl
  | cons a k ih =>
    cases l with
    | nil => exact Or.inr rfl
    | cons b l =>
      rw [before_cons, before_cons]
      by_cases hab : a = b
      · subst hab
        exact (ih fun hk => h (by rw [hk])).imp (fun hk => Or.inr ⟨rfl, hk⟩) fun hk => Or.inr ⟨rfl, hk⟩
      · exact (o.total d a b hab).imp Or.inl Or.inl

end Location

namespace FileSystem

variable {fs fs' : FileSystem} {o : ListingOrder}

/-! ## Entries -/

theorem eq_or_mem_of_mem_insertEntry {l : Location} {e : Entry} {es : List (Location × Entry)} {x : Location × Entry}
    (h : x ∈ insertEntry o l e es) : x = (l, e) ∨ x ∈ es := by
  induction es with
  | nil => simpa [insertEntry] using h
  | cons y es ih =>
    obtain ⟨k, d⟩ := y
    simp only [insertEntry] at h
    split_ifs at h with h1 h2
    · rcases List.mem_cons.1 h with h | h
      · exact Or.inl h
      · exact Or.inr (List.mem_cons_of_mem _ h)
    · rcases List.mem_cons.1 h with h | h
      · exact Or.inl h
      · exact Or.inr h
    · rcases List.mem_cons.1 h with h | h
      · exact Or.inr (h ▸ List.mem_cons_self)
      · exact (ih h).imp id (List.mem_cons_of_mem _)

theorem insertEntry_sorted (l : Location) (e : Entry) {es : List (Location × Entry)}
    (h : es.Pairwise fun a b => Location.before o [] a.1 b.1 = true) :
    (insertEntry o l e es).Pairwise fun a b => Location.before o [] a.1 b.1 = true := by
  induction es with
  | nil => simp [insertEntry]
  | cons y es ih =>
    obtain ⟨k, d⟩ := y
    obtain ⟨hk, hes⟩ := List.pairwise_cons.1 h
    simp only [insertEntry]
    split_ifs with h1 h2
    · subst h1
      exact List.pairwise_cons.2 ⟨hk, hes⟩
    · refine List.pairwise_cons.2 ⟨fun x hx => ?_, h⟩
      rcases List.mem_cons.1 hx with rfl | hx
      · exact h2
      · exact Location.before_trans h2 (hk x hx)
    · -- the new location is neither here nor before, so it comes behind
      have hkl : Location.before o [] k l = true := (Location.before_total h1).resolve_right h2
      refine List.pairwise_cons.2 ⟨fun x hx => ?_, ih hes⟩
      rcases eq_or_mem_of_mem_insertEntry hx with rfl | hx
      · exact hkl
      · exact hk x hx

/-! ## Well-formed file systems -/

theorem WellFormed.mem_iff (wf : fs.WellFormed) {l : Location} {e : Entry} :
    (l, e) ∈ fs.entries ↔ l ≠ [] ∧ fs.find? l = some e :=
  ⟨fun h => ⟨(wf.named _ h).1, wf.find?_of_mem h⟩, fun h => mem_of_find? h.1 h.2⟩

/-- lists of entries in order are equal if they hold the same entries -/
theorem eq_of_sorted {d : Location} {as bs : List (Location × Entry)}
    (ha : as.Pairwise fun a b => Location.before o d a.1 b.1 = true)
    (hb : bs.Pairwise fun a b => Location.before o d a.1 b.1 = true) (h : ∀ x, x ∈ as ↔ x ∈ bs) : as = bs := by
  have irrefl : Std.Irrefl fun a b : Location × Entry => Location.before o d a.1 b.1 = true :=
    ⟨fun a h => by simp [Location.before_irrefl] at h⟩
  have antisymm : Std.Antisymm fun a b : Location × Entry => Location.before o d a.1 b.1 = true :=
    ⟨fun a b hab hba => absurd (Location.before_trans hab hba) (irrefl.irrefl a)⟩
  exact ha.eq_of_mem_iff hb h

/-- **A well-formed file system** is told by what stands where. -/
theorem WellFormed.ext (wf : fs.WellFormed) (wf' : fs'.WellFormed) (same : ∀ l, fs'.find? l = fs.find? l)
    (hcwd : fs'.cwd = fs.cwd) (humask : fs'.umask = fs.umask) (hdenied : fs'.denied = fs.denied)
    (hchoices : fs'.choices = fs.choices) : fs' = fs := by
  have sorted := wf'.sorted
  rw [hchoices] at sorted
  have entries : fs'.entries = fs.entries :=
    eq_of_sorted sorted wf.sorted fun ⟨l, e⟩ => by rw [wf'.mem_iff, wf.mem_iff, same]
  cases fs
  cases fs'
  simp_all

/-- a place for an entry: a name in a directory -/
structure Fits (fs : FileSystem) (l : Location) : Prop where
  parent : fs.holdsDirectory l.dropLast = true
  ne_nil : l ≠ []
  names : ∀ n ∈ l, isEntryName n = true

theorem WellFormed.fits (wf : fs.WellFormed) {l : Location} (hl : l ≠ []) {e : Entry} (h : fs.find? l = some e) :
    fs.Fits l :=
  ⟨wf.up h, hl, fun _ => wf.name_ok h⟩

/-- a name in a directory that is there -/
theorem WellFormed.fits_child (wf : fs.WellFormed) {d : Location} (hd : fs.holdsDirectory d = true) {n : Text}
    (hn : isEntryName n = true) : fs.Fits (d ++ [n]) := by
  obtain ⟨mode, hf⟩ := holdsDirectory_iff.1 hd
  refine ⟨by rwa [List.dropLast_concat], by simp, fun m hm => ?_⟩
  rcases List.mem_append.1 hm with hm | hm
  · exact wf.name_ok hf hm
  · rwa [List.mem_singleton.1 hm]

/-- **A file where no directory stands** keeps a file system well-formed. -/
theorem WellFormed.put (wf : fs.WellFormed) {l : Location} (hl : fs.Fits l) (hd : fs.holdsDirectory l = false)
    {e : Entry} (he : e.isDirectory = false) : (fs.put l e).WellFormed := by
  have same : ∀ k, (fs.put l e).holdsDirectory k = fs.holdsDirectory k := (wf.grounded.put hd he).2
  refine ⟨insertEntry_sorted l e wf.sorted, fun x hx => ?_, fun x hx => ?_, ?_⟩
  · rcases eq_or_mem_of_mem_insertEntry hx with rfl | hx
    · exact ⟨hl.ne_nil, hl.names⟩
    · exact wf.named x hx
  · rw [same]
    rcases eq_or_mem_of_mem_insertEntry hx with rfl | hx
    · exact hl.parent
    · exact wf.rooted x hx
  · rw [same]
    exact wf.seated

end FileSystem
end Typings
