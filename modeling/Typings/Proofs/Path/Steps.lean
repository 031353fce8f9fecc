/-
The names that a path leads through.

- `stepsOf_append_slash`: the names before a slash come before the names behind it.
- `stepsOf_getLast?`: the last of the names is the last piece of the text.
- `stepsOf_toText`: a path whose names are plain leads through its names, and through those of its last name where
  that one is written with dots and slashes of its own.
-/
import Typings.FileSystem.Resolve
import Typings.Proofs.Text.Pieces

namespace Typings

open FileSystem (stepsOf endsOpen)

namespace Path

/-- a name that is followed as it is: no separator in it, and no lone dot -/
def IsPlain (n : Text) : Prop := n ≠ [] ∧ slash ∉ n ∧ n ≠ ("." : Text)

/-- what reading a path, or giving it another last name, makes: a root of slashes, and names that are not empty and
do not end in a slash -/
def IsProper (p : Path) : Prop := (∀ c ∈ p.root, c = slash) ∧ ∀ n ∈ p.names, n ≠ [] ∧ n.getLast? ≠ some slash

instance (p : Path) : Decidable p.IsProper :=
  decidable_of_iff
    ((p.root.all (· == slash) && p.names.all fun n => n != [] && n.getLast? != some slash) = true)
    (by simp [IsProper])

theorem IsPlain.last {n : Text} (h : IsPlain n) : n ≠ [] ∧ n.getLast? ≠ some slash :=
  ⟨h.1, fun hl => h.2.1 (List.mem_of_getLast? hl)⟩

/-! ## Names of a text -/

theorem namesOf_append_slash (a b : Text) : namesOf (a ++ slash :: b) = namesOf a ++ namesOf b := by
  simp only [namesOf, Text.splitAt_append_sep, List.filter_append]

theorem namesOf_nil : namesOf [] = [] := rfl

theorem namesOf_plain {n : Text} (h : IsPlain n) : namesOf n = [n] := by
  simp only [namesOf, Text.splitAt_of_not_mem h.2.1]
  simpa [h.1] using h.2.2

theorem plain_of_mem_namesOf {t n : Text} (h : n ∈ namesOf t) : IsPlain n := by
  obtain ⟨h1, h2⟩ := List.mem_filter.1 h
  simp only [Bool.and_eq_true, bne_iff_ne, ne_eq] at h2
  exact ⟨h2.1, Text.not_mem_of_mem_splitAt h1, h2.2⟩

theorem namesOf_join (ns : List Text) : namesOf (Text.join [slash] ns) = ns.flatMap namesOf := by
  by_cases h : ns = []
  · subst h; rfl
  · simp only [namesOf, Text.splitAt_join h, List.filter_flatMap]
    rfl

theorem flatMap_namesOf {ns : List Text} (h : ∀ n ∈ ns, IsPlain n) : ns.flatMap namesOf = ns := by
  induction ns with
  | nil => rfl
  | cons n r ih =>
    rw [List.flatMap_cons, namesOf_plain (h n List.mem_cons_self), ih fun m hm => h m (List.mem_cons_of_mem _ hm)]
    rfl

theorem namesOf_root_append {root : Text} (h : ∀ c ∈ root, c = slash) (t : Text) :
    namesOf (root ++ t) = namesOf t := by
  induction root with
  | nil => rfl
  | cons c r ih =>
    rw [h c List.mem_cons_self, List.cons_append]
    exact (namesOf_append_slash [] _).trans (ih fun d hd => h d (List.mem_cons_of_mem _ hd))

/-! ## Steps of a text -/

/-- the lone dot at the end of a text, which stands for a directory -/
def finalDot (t : Text) : List Text :=
  if ((Text.splitAt slash t).filter (!·.isEmpty)).getLast? = some ("." : Text) then [("." : Text)] else []

theorem stepsOf_eq (t : Text) : stepsOf t = namesOf t ++ finalDot t := rfl

theorem lastPiece_ne_nil {t : Text} (h : t ≠ []) (hl : t.getLast? ≠ some slash) : Text.lastPiece slash t ≠ [] := by
  rcases Text.lastPiece_cases slash t with ⟨_, e⟩ | ⟨a, ha⟩
  · rwa [e]
  · intro hn
    rw [hn] at ha
    rw [ha] at hl
    simp at hl

theorem getLast?_pieces {t : Text} (h : Text.lastPiece slash t ≠ []) :
    ((Text.splitAt slash t).filter (!·.isEmpty)).getLast? = some (Text.lastPiece slash t) := by
  obtain ⟨ps, hp⟩ := Text.splitAt_eq_append slash t
  simp [hp, List.filter_append, h]

theorem finalDot_eq {t : Text} (h : Text.lastPiece slash t ≠ []) :
    finalDot t = if Text.lastPiece slash t = ("." : Text) then [("." : Text)] else [] := by
  simp only [finalDot, getLast?_pieces h, Option.some.injEq]

/-- the last of the names is the last piece of the text -/
theorem stepsOf_getLast? {t : Text} (h : Text.lastPiece slash t ≠ []) :
    (stepsOf t).getLast? = some (Text.lastPiece slash t) := by
  rw [stepsOf_eq, finalDot_eq h]
  split_ifs with hd
  · rw [hd]; simp
  · obtain ⟨ps, hp⟩ := Text.splitAt_eq_append slash t
    have hn : (Text.lastPiece slash t != [] && Text.lastPiece slash t != ("." : Text)) = true := by
      simp only [Bool.and_eq_true, bne_iff_ne, ne_eq]
      exact ⟨h, hd⟩
    simp only [namesOf, hp, List.filter_append, List.filter_cons, hn, if_true, List.filter_nil, List.append_nil,
      List.getLast?_concat]

theorem stepsOf_append_slash {b : Text} (hb : Text.lastPiece slash b ≠ []) (a : Text) :
    stepsOf (a ++ slash :: b) = namesOf a ++ stepsOf b := by
  have h : Text.lastPiece slash (a ++ slash :: b) = Text.lastPiece slash b := Text.lastPiece_append_sep a b
  rw [stepsOf_eq, stepsOf_eq, finalDot_eq hb, finalDot_eq (by rwa [h]), h, namesOf_append_slash, List.append_assoc]

theorem stepsOf_plain {n : Text} (h : IsPlain n) : stepsOf n = [n] := by
  have hl := Text.lastPiece_of_not_mem h.2.1
  rw [stepsOf_eq, finalDot_eq (by rw [hl]; exact h.1), hl, if_neg h.2.2, namesOf_plain h]
  rfl

theorem stepsOf_slashes {t : Text} (h : ∀ c ∈ t, c = slash) : stepsOf t = [] := by
  have hn : namesOf t = [] := by simpa [namesOf_nil] using namesOf_root_append h []
  have hp : (Text.splitAt slash t).filter (!·.isEmpty) = [] := by
    clear hn
    induction t with
    | nil => rfl
    | cons c r ih =>
      rw [h c List.mem_cons_self, Text.splitAt_sep_cons]
      exact ih fun d hd => h d (List.mem_cons_of_mem _ hd)
  simp [stepsOf_eq, hn, finalDot, hp]

/-! ## Paths as text -/

theorem toText_eq {p : Path} (h : p.names ≠ []) : p.toText = p.root ++ Text.join [slash] p.names := by
  simp [toText, h]

theorem join_append_singleton {ns : List Text} (h : ns ≠ []) (n : Text) :
    Text.join [slash] (ns ++ [n]) = Text.join [slash] ns ++ slash :: n := by
  induction ns with
  | nil => exact absurd rfl h
  | cons a r ih =>
    unfold Text.join at ih ⊢
    cases r with
    | nil => simp [List.intercalate_cons_cons]
    | cons b r =>
      rw [List.cons_append, List.cons_append, List.intercalate_cons_cons, List.intercalate_cons_cons,
        ← List.cons_append, ih (by simp)]
      simp

/-- a path's text is its last name, behind a slash if anything stands before it -/
theorem toText_child (root : Text) (hr : ∀ c ∈ root, c = slash) (ns : List Text) (n : Text) :
    (root = [] ∧ ns = [] ∧ (⟨root, ns ++ [n]⟩ : Path).toText = n) ∨
      ∃ a, (⟨root, ns ++ [n]⟩ : Path).toText = a ++ slash :: n ∧ namesOf a = ns.flatMap namesOf := by
  rw [toText_eq (by simp)]
  by_cases hn : ns = []
  · subst hn
    rcases List.eq_nil_or_concat root with rfl | ⟨r, c, rfl⟩
    · exact Or.inl ⟨rfl, rfl, by simp [Text.join]⟩
    · have hc : c = slash := hr c (by simp)
      refine Or.inr ⟨r, by simp [Text.join, hc], ?_⟩
      simpa [namesOf_nil] using namesOf_root_append (fun d hd => hr d (by simp [hd])) []
  · refine Or.inr ⟨root ++ Text.join [slash] ns, ?_, ?_⟩
    · simp [join_append_singleton hn]
    · rw [namesOf_root_append hr, namesOf_join]

theorem eq_append_name {p : Path} (h : p.names ≠ []) : p = ⟨p.root, p.names.dropLast ++ [p.name]⟩ := by
  have : p.name = p.names.getLast h := by simp [name, List.getLast?_eq_some_getLast h]
  rw [this, List.dropLast_concat_getLast h]

theorem IsProper.name {p : Path} (hp : p.IsProper) (h : p.names ≠ []) : p.name ≠ [] ∧ p.name.getLast? ≠ some slash := by
  apply hp.2
  simp [Path.name, List.getLast?_eq_some_getLast h]

theorem lastPiece_toText {p : Path} (hp : p.IsProper) (h : p.names ≠ []) :
    Text.lastPiece slash p.toText = Text.lastPiece slash p.name := by
  rw [eq_append_name h]
  rcases toText_child p.root hp.1 p.names.dropLast p.name with ⟨_, _, e⟩ | ⟨a, e, _⟩
  · rw [e]; simp [Path.name]
  · rw [e, Text.lastPiece_append_sep]; simp [Path.name]

theorem endsOpen_toText {p : Path} (hp : p.IsProper) (h : p.names ≠ []) : endsOpen p.toText = false := by
  obtain ⟨h1, h2⟩ := hp.name h
  rw [eq_append_name h]
  have hl : ∀ a : Text, (a ++ slash :: p.name).getLast? = p.name.getLast? := fun a => by
    rw [List.getLast?_append_of_ne_nil _ (by simp), List.getLast?_cons_of_ne_nil h1]
  rcases toText_child p.root hp.1 p.names.dropLast p.name with ⟨_, _, e⟩ | ⟨a, e, _⟩
  · rw [e]; simpa [endsOpen] using h2
  · rw [e]; simpa [endsOpen, hl] using h2

/-- **A path leads through its names**, and through those of its last name where that one has dots and slashes. -/
theorem stepsOf_toText {root : Text} (hr : ∀ c ∈ root, c = slash) {ns : List Text} (hn : ∀ n ∈ ns, IsPlain n)
    {n : Text} (h1 : n ≠ []) (h2 : n.getLast? ≠ some slash) :
    stepsOf (⟨root, ns ++ [n]⟩ : Path).toText = ns ++ stepsOf n := by
  rcases toText_child root hr ns n with ⟨_, rfl, e⟩ | ⟨a, e, ha⟩
  · rw [e]; rfl
  · rw [e, stepsOf_append_slash (lastPiece_ne_nil h1 h2), ha, flatMap_namesOf hn]

/-- a path of plain names leads through them, if there are any, -/
theorem stepsOf_toText_names {p : Path} (h : p.names ≠ []) (hr : ∀ c ∈ p.root, c = slash)
    (hn : ∀ n ∈ p.names, IsPlain n) : stepsOf p.toText = p.names := by
  have hlast : IsPlain p.name := hn _ (by simp [name, List.getLast?_eq_some_getLast h])
  have hdrop : ∀ n ∈ p.names.dropLast, IsPlain n := fun n hm => hn n (List.mem_of_mem_dropLast hm)
  have he := eq_append_name h
  rw [congrArg toText he, stepsOf_toText hr hdrop hlast.last.1 hlast.last.2, stepsOf_plain hlast]
  exact (congrArg Path.names he).symm

/-- or if it has a root -/
theorem stepsOf_toText_plain {p : Path} (ha : p.root ≠ []) (hr : ∀ c ∈ p.root, c = slash)
    (hn : ∀ n ∈ p.names, IsPlain n) : stepsOf p.toText = p.names := by
  by_cases h : p.names = []
  · have : p.toText = p.root := by simp [toText, h, ha, Text.join]
    rw [this, stepsOf_slashes hr, h]
  · exact stepsOf_toText_names h hr hn

/-! ## Reading and renaming make proper paths -/

theorem rootOf_slashes (t : Text) : ∀ c ∈ rootOf t, c = slash := by
  have h : ∀ c ∈ t.takeWhile (· == slash), c = slash := fun c hc => by simpa using List.mem_takeWhile_imp hc
  intro c hc
  unfold rootOf at hc
  split at hc
  · simp at hc
  · rename_i a b ht; exact h c (by rwa [ht])
  · rename_i a r _ ht
    simp only [List.mem_singleton] at hc
    exact h c (by rw [ht, hc]; exact List.mem_cons_self)

theorem rootOf_cons_slash (t : Text) : rootOf (slash :: t) ≠ [] := by
  unfold rootOf
  simp only [List.takeWhile_cons, beq_self_eq_true, if_true]
  split <;> simp_all

theorem rootOf_append_ne_nil {root : Text} (hr : ∀ c ∈ root, c = slash) (h : root ≠ []) (t : Text) :
    rootOf (root ++ t) ≠ [] := by
  obtain ⟨c, r, rfl⟩ := List.exists_cons_of_ne_nil h
  rw [hr c List.mem_cons_self, List.cons_append]
  exact rootOf_cons_slash _

theorem toText_of_root {p : Path} (h : p.root ≠ []) : p.toText = p.root ++ Text.join [slash] p.names := by
  simp [toText, h]

/-- the text of a relative path does not begin with a slash -/
theorem rootOf_toText_relative {p : Path} (h : p.root = []) (hn : ∀ n ∈ p.names, IsPlain n) :
    rootOf p.toText = [] := by
  cases hp : p.names with
  | nil =>
    have : p.toText = ("." : Text) := by simp [toText, h, hp]
    rw [this]
    rfl
  | cons n ns =>
    obtain ⟨h1, h2, -⟩ := hn n (by simp [hp])
    obtain ⟨c, r, rfl⟩ := List.exists_cons_of_ne_nil h1
    have hc : c ≠ slash := fun hc => h2 (by simp [hc])
    have : ∃ rest, p.toText = c :: rest := by
      rw [toText_eq (by simp [hp]), h, hp]
      cases ns <;> exact ⟨_, rfl⟩
    obtain ⟨rest, hrest⟩ := this
    simp [hrest, rootOf, hc]

theorem ofText_isProper (t : Text) : (ofText t).IsProper :=
  ⟨rootOf_slashes t, fun _ hn => (plain_of_mem_namesOf hn).last⟩

theorem withName_eq_ok {p q : Path} {n : Text} (h : p.withName n = .ok q) :
    p.names ≠ [] ∧ isName n = true ∧ q = p.parent.child n := by
  unfold withName at h
  split_ifs at h with h1 h2
  cases h
  exact ⟨by simpa using h1, h2, rfl⟩

theorem isName_iff {n : Text} : isName n = true ↔ rootOf n = [] ∧ (namesOf n).length = 1 ∧ n.getLast? ≠ some slash := by
  simp [isName, and_assoc]

theorem isName_ne_nil {n : Text} (h : isName n = true) : n ≠ [] := by
  rintro rfl
  simp [isName, namesOf_nil] at h

end Path
end Typings
