/-
Trees: what the entries of a file system say about its locations.

- `find?_put_self`, `find?_put_of_ne`: an entry that is put is found at its location, and nothing else moves.
- `erase_put_of_absent`: what was put where nothing stood can be taken away without a trace.
- `WellFormed`: the entries stand in order, each in a directory that is there, and the working directory is one of
  them or has been removed. `Grounded` is the part of it that following a path needs: it depends on the directories
  alone, so it survives every change of a file.
-/
import Mathlib.Tactic
import Typings.FileSystem.Resolve

namespace Typings

/-- a mapped result is the result of what was mapped -/
theorem Except.exists_of_map {ε α β : Type} {f : α → β} {x : Except ε α} {b : β} (h : x.map f = .ok b) :
    ∃ a, x = .ok a ∧ f a = b := by
  cases x with
  | error c => cases h
  | ok a => exact ⟨a, rfl, by simpa [Except.map] using h⟩

/-! ## Order -/

theorem Location.before_irrefl (o : ListingOrder) (d l : Location) : Location.before o d l l = false := by
  induction l generalizing d with
  | nil => rfl
  | cons n r ih => simp [Location.before, o.irrefl, ih]

namespace FileSystem

/-! ## Entries by location -/

variable {o : ListingOrder}

theorem lookup_insertEntry_self (l : Location) (e : Entry) (es : List (Location × Entry)) :
    (insertEntry o l e es).lookup l = some e := by
  induction es with
  | nil => simp [insertEntry]
  | cons x es ih =>
    obtain ⟨k, d⟩ := x
    simp only [insertEntry]
    split_ifs with h1 h2
    · simp
    · simp
    · have hk : (l == k) = false := by simpa using fun h : l = k => h1 h.symm
      simpa [List.lookup_cons, hk] using ih

theorem lookup_insertEntry_of_ne {k l : Location} (h : k ≠ l) (e : Entry) (es : List (Location × Entry)) :
    (insertEntry o l e es).lookup k = es.lookup k := by
  have hk : (k == l) = false := by simpa using h
  induction es with
  | nil => simp [insertEntry, List.lookup_cons, hk]
  | cons x es ih =>
    obtain ⟨j, d⟩ := x
    simp only [insertEntry]
    split_ifs with h1 h2
    · subst h1; simp [List.lookup_cons, hk]
    · simp [List.lookup_cons, hk]
    · simp only [List.lookup_cons, ih]

theorem insertEntry_insertEntry (l : Location) (d e : Entry) (es : List (Location × Entry)) :
    insertEntry o l e (insertEntry o l d es) = insertEntry o l e es := by
  induction es with
  | nil => simp [insertEntry]
  | cons x es ih =>
    obtain ⟨k, c⟩ := x
    simp only [insertEntry]
    split_ifs with h1 h2
    · simp [insertEntry]
    · simp [insertEntry]
    · simp [insertEntry, h1, h2, ih]

theorem filter_insertEntry (l : Location) (e : Entry) (es : List (Location × Entry)) :
    (insertEntry o l e es).filter (fun x => x.1 != l) = es.filter fun x => x.1 != l := by
  induction es with
  | nil => simp [insertEntry]
  | cons x es ih =>
    obtain ⟨k, d⟩ := x
    simp only [insertEntry]
    split_ifs with h1 h2
    · simp [h1]
    · simp
    · simp only [List.filter_cons, ih]

theorem filter_of_lookup_none {l : Location} {es : List (Location × Entry)} (h : es.lookup l = none) :
    (es.filter fun x => x.1 != l) = es := by
  induction es with
  | nil => rfl
  | cons x es ih =>
    obtain ⟨k, d⟩ := x
    by_cases hk : l = k
    · subst hk; simp at h
    · have hb : (l == k) = false := by simpa using hk
      simp only [List.lookup_cons, hb] at h
      have hn : (k != l) = true := by simpa using fun h : k = l => hk h.symm
      simp only [List.filter_cons, hn, if_true, ih h]

/-! ## Putting and erasing -/

theorem ne_nil_of_absent {fs : FileSystem} {l : Location} (h : fs.find? l = none) : l ≠ [] := by
  rintro rfl
  simp [find?] at h

theorem lookup_of_absent {fs : FileSystem} {l : Location} (h : fs.find? l = none) : fs.entries.lookup l = none := by
  have := ne_nil_of_absent h
  simpa [find?, this] using h

theorem find?_put_self (fs : FileSystem) {l : Location} (hl : l ≠ []) (e : Entry) : (fs.put l e).find? l = some e := by
  simp [find?, put, hl, lookup_insertEntry_self]

theorem find?_put_of_ne (fs : FileSystem) {k l : Location} (h : k ≠ l) (e : Entry) :
    (fs.put l e).find? k = fs.find? k := by
  simp [find?, put, lookup_insertEntry_of_ne h]

theorem put_put (fs : FileSystem) (l : Location) (d e : Entry) : (fs.put l d).put l e = fs.put l e := by
  simp [put, insertEntry_insertEntry]

/-- what is put where nothing stands leaves no trace once it is erased -/
theorem erase_put_of_absent {fs : FileSystem} {l : Location} (h : fs.find? l = none) (e : Entry) :
    (fs.put l e).erase l = fs := by
  simp only [erase, put, filter_insertEntry, filter_of_lookup_none (lookup_of_absent h)]

theorem erase_of_absent {fs : FileSystem} {l : Location} (h : fs.find? l = none) : fs.erase l = fs := by
  simp only [erase, filter_of_lookup_none (lookup_of_absent h)]

/-! ## Directories -/

/-- whether a directory stands at a location -/
def holdsDirectory (fs : FileSystem) (l : Location) : Bool := (fs.find? l).any Entry.isDirectory

theorem holdsDirectory_root (fs : FileSystem) : fs.holdsDirectory [] := by
  simp [holdsDirectory, find?, Entry.isDirectory]

theorem ne_nil_of_no_directory {fs : FileSystem} {l : Location} (h : fs.holdsDirectory l = false) : l ≠ [] := by
  rintro rfl
  simp [holdsDirectory_root] at h

theorem holdsDirectory_iff {fs : FileSystem} {l : Location} :
    fs.holdsDirectory l ↔ ∃ mode, fs.find? l = some (.directory mode) := by
  unfold holdsDirectory
  constructor
  · intro h
    obtain ⟨e, he, hd⟩ := (Option.any_eq_true _ _).1 h
    cases e with
    | directory mode => exact ⟨mode, he⟩
    | _ => simp [Entry.isDirectory] at hd
  · rintro ⟨mode, h⟩
    simp [h, Entry.isDirectory]

/-- directories have directories above them, a directory that is there has not been removed, and the working
directory is there unless it has been removed -/
structure Grounded (fs : FileSystem) : Prop where
  up : ∀ l, fs.holdsDirectory l → fs.holdsDirectory l.dropLast
  here : ∀ l, fs.holdsDirectory l → l.isGone = false
  seated : fs.cwd.isGone = true ∨ fs.holdsDirectory fs.cwd = true

/-- a change of what is no directory into what is none keeps the ground -/
theorem Grounded.put {fs : FileSystem} (g : Grounded fs) {l : Location} {e : Entry}
    (hl : fs.holdsDirectory l = false) (he : e.isDirectory = false) :
    Grounded (fs.put l e) ∧ ∀ k, (fs.put l e).holdsDirectory k = fs.holdsDirectory k := by
  have same : ∀ k, (fs.put l e).holdsDirectory k = fs.holdsDirectory k := by
    intro k
    by_cases hk : k = l
    · subst hk
      rw [hl]
      simp [holdsDirectory, find?_put_self fs (ne_nil_of_no_directory hl), he]
    · simp [holdsDirectory, find?_put_of_ne fs hk]
  refine ⟨⟨fun k hk => ?_, fun k hk => ?_, ?_⟩, same⟩
  · rw [same] at hk ⊢; exact g.up k hk
  · rw [same] at hk; exact g.here k hk
  · rw [same]; exact g.seated

/-! ## Well-formed file systems -/

/-- a name that an entry may have -/
def isEntryName (n : Text) : Bool :=
  n != [] && !n.contains Path.slash && n != ("." : Text) && n != (".." : Text) && decide (octets n ≤ nameLimit)

theorem isEntryName_iff {n : Text} : isEntryName n = true ↔
    n ≠ [] ∧ Path.slash ∉ n ∧ n ≠ ("." : Text) ∧ n ≠ (".." : Text) ∧ octets n ≤ nameLimit := by
  simp [isEntryName, and_assoc]

structure WellFormed (fs : FileSystem) : Prop where
  sorted : fs.entries.Pairwise fun a b => Location.before fs.choices.order [] a.1 b.1 = true
  named : ∀ x ∈ fs.entries, x.1 ≠ [] ∧ ∀ n ∈ x.1, isEntryName n = true
  rooted : ∀ x ∈ fs.entries, fs.holdsDirectory x.1.dropLast = true
  seated : fs.cwd.isGone = true ∨ fs.holdsDirectory fs.cwd = true

instance (fs : FileSystem) : Decidable (WellFormed fs) :=
  decidable_of_iff
    ((fs.entries.Pairwise fun a b => Location.before fs.choices.order [] a.1 b.1 = true)
      ∧ (∀ x ∈ fs.entries, x.1 ≠ [] ∧ ∀ n ∈ x.1, isEntryName n = true)
      ∧ (∀ x ∈ fs.entries, fs.holdsDirectory x.1.dropLast = true)
      ∧ (fs.cwd.isGone = true ∨ fs.holdsDirectory fs.cwd = true))
    ⟨fun h => ⟨h.1, h.2.1, h.2.2.1, h.2.2.2⟩, fun h => ⟨h.sorted, h.named, h.rooted, h.seated⟩⟩

theorem mem_of_find? {fs : FileSystem} {l : Location} {e : Entry} (hl : l ≠ []) (h : fs.find? l = some e) :
    (l, e) ∈ fs.entries := by
  have h : fs.entries.lookup l = some e := by simpa [find?, hl] using h
  generalize fs.entries = es at h ⊢
  induction es with
  | nil => simp at h
  | cons x es ih =>
    obtain ⟨k, d⟩ := x
    by_cases hk : l = k
    · subst hk; simp at h; simp [h]
    · have hb : (l == k) = false := by simpa using hk
      simp only [List.lookup_cons, hb] at h
      exact List.mem_cons_of_mem _ (ih h)

theorem WellFormed.name_ok {fs : FileSystem} (wf : fs.WellFormed) {l : Location} {e : Entry} (h : fs.find? l = some e)
    {n : Text} (hn : n ∈ l) : isEntryName n = true := by
  have hl : l ≠ [] := List.ne_nil_of_mem hn
  exact (wf.named _ (mem_of_find? hl h)).2 n hn

theorem WellFormed.up {fs : FileSystem} (wf : fs.WellFormed) {l : Location} {e : Entry} (h : fs.find? l = some e) :
    fs.holdsDirectory l.dropLast := by
  by_cases hl : l = []
  · subst hl; exact holdsDirectory_root fs
  · exact wf.rooted _ (mem_of_find? hl h)

theorem WellFormed.grounded {fs : FileSystem} (wf : fs.WellFormed) : Grounded fs where
  up l h := by
    obtain ⟨mode, h⟩ := holdsDirectory_iff.1 h
    exact wf.up h
  here l h := by
    obtain ⟨mode, h⟩ := holdsDirectory_iff.1 h
    by_contra hg
    have hn : [] ∈ l := by simpa [Location.isGone] using hg
    simpa [isEntryName] using wf.name_ok h hn
  seated := wf.seated

theorem WellFormed.nodup {fs : FileSystem} (wf : fs.WellFormed) : (fs.entries.map Prod.fst).Nodup := by
  rw [List.nodup_iff_pairwise_ne, List.pairwise_map]
  refine wf.sorted.imp fun {a b} h hab => ?_
  rw [hab, Location.before_irrefl] at h
  exact absurd h (by decide)

theorem WellFormed.find?_of_mem {fs : FileSystem} (wf : fs.WellFormed) {l : Location} {e : Entry}
    (h : (l, e) ∈ fs.entries) : fs.find? l = some e := by
  have hl := (wf.named _ h).1
  have hd := wf.nodup
  suffices fs.entries.lookup l = some e by simpa [find?, hl] using this
  generalize fs.entries = es at h hd ⊢
  induction es with
  | nil => simp at h
  | cons x es ih =>
    obtain ⟨k, d⟩ := x
    simp only [List.map_cons, List.nodup_cons, List.mem_map] at hd
    rcases List.mem_cons.1 h with h | h
    · cases h; simp
    · have hk : (l == k) = false := by
        simp only [beq_eq_false_iff_ne, ne_eq]
        intro hlk
        exact hd.1 ⟨_, h, hlk⟩
      simp only [List.lookup_cons, hk]
      exact ih h hd.2

end FileSystem
end Typings
