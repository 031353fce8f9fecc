/-
Pictograms: where no name of a picture stands between two colons, nothing is replaced.

- `HasCode`: the names that are replaced. A longer text has them too, and no name of a picture holds a bracket.
- `replace_eq_self`: a text without them stays as it is.
-/
import Typings.Console.Pictogram
import Typings.Proofs.Text.Pieces

namespace Typings

/-- a bracket has no small letter -/
theorem Text.bracket_mem_lower {t : Text} (h : CodePoint.ofChar '[' ∈ t) : CodePoint.ofChar '[' ∈ Text.lower t := by
  have from_any : ∀ before, CodePoint.ofChar '[' ∈ lowerFrom before t := by
    induction t with
    | nil => cases h
    | cons c r ih =>
      intro before
      rw [lowerFrom, List.mem_append]
      rcases List.mem_cons.1 h with rfl | h
      · rw [if_neg (by decide), if_neg (by decide)]
        exact Or.inl (by decide)
      · exact Or.inr (ih h _)
  exact from_any []

namespace Pictogram

variable {t : Text}

/-! ## Names of pictures -/

/-- the name of a picture stands between two colons -/
def HasCode (t : Text) : Prop :=
  ∃ name : Text, CodePoint.ofChar ':' ∉ name ∧ name.any CodePoint.isBlank = false ∧ (picture? name).isSome = true ∧
    CodePoint.ofChar ':' :: (name ++ [CodePoint.ofChar ':']) <:+: t

theorem HasCode.of_infix {u : Text} (h : HasCode t) (hu : t <:+: u) : HasCode u := by
  obtain ⟨name, hcolon, hblank, hpicture, ht⟩ := h
  exact ⟨name, hcolon, hblank, hpicture, ht.trans hu⟩

theorem not_hasCode_of_not_mem (h : CodePoint.ofChar ':' ∉ t) : ¬ HasCode t := by
  rintro ⟨name, -, -, -, ht⟩
  exact h (ht.subset List.mem_cons_self)

/-- a text in front that has no colon adds no name -/
theorem HasCode.of_append {a : Text} (ha : CodePoint.ofChar ':' ∉ a) (h : HasCode (a ++ t)) : HasCode t := by
  obtain ⟨name, hcolon, hblank, hpicture, ht⟩ := h
  refine ⟨name, hcolon, hblank, hpicture, ?_⟩
  induction a with
  | nil => exact ht
  | cons c a ih =>
    obtain ⟨hc, ha⟩ := not_or.1 fun h => ha (List.mem_cons.2 h)
    rw [List.cons_append, List.infix_cons_iff] at ht
    rcases ht with hhead | ht
    · exact absurd (List.cons_prefix_cons.1 hhead).1 hc
    · exact ih ha ht

theorem isNamePart_of_mem_names {x : Text × Text} (h : x ∈ names) : ∀ c ∈ x.1, isNamePart c = true := by
  obtain ⟨e, -, rfl⟩ := List.mem_map.1 h
  exact fun c => List.mem_takeWhile_imp

theorem bracket_not_mem_of_picture {name : Text} (h : (picture? name).isSome = true) :
    CodePoint.ofChar '[' ∉ name := by
  intro hmem
  have hkeys : ∀ x ∈ names, CodePoint.ofChar '[' ∉ x.1 := fun x hx hbracket =>
    absurd (isNamePart_of_mem_names hx _ hbracket) (by decide)
  have hsuffixes : ∀ v ∈ variants, CodePoint.ofChar '[' ∉ v.1 := by decide
  -- what is looked up still has the bracket
  have hstripped : CodePoint.ofChar '[' ∈ (variant name).1 := by
    unfold variant
    split
    · rename_i suffix mark hfind
      have hsuffix : CodePoint.ofChar '[' ∉ suffix := hsuffixes _ (List.mem_of_find?_eq_some hfind)
      have hends : name.endsWith suffix = true := by simpa using List.find?_some hfind
      obtain ⟨a, rfl⟩ := List.isSuffixOf_iff_suffix.1 hends
      rcases List.mem_append.1 hmem with hmem | hmem
      · simpa [Text.dropSuffix, hends] using hmem
      · exact absurd hmem hsuffix
    · exact hmem
  have hlookup : (names.lookup (Text.lower (variant name).1)).isSome = true := by simpa [picture?] using h
  obtain ⟨n, hn⟩ := Option.isSome_iff_exists.1 hlookup
  obtain ⟨before, after, hnames, -⟩ := List.lookup_eq_some_iff.1 hn
  have hmem : (Text.lower (variant name).1, n) ∈ names := by
    rw [hnames]
    exact List.mem_append_right _ List.mem_cons_self
  exact hkeys _ hmem (Text.bracket_mem_lower hstripped)

/-! ## Nothing to replace -/

theorem join_eq {pieces : List Text}
    (h : ∀ before name next rest, pieces = before ++ name :: next :: rest →
      name.any CodePoint.isBlank = true ∨ picture? name = none) :
    join pieces = pieces.flatMap fun p => (":" : Text) ++ p := by
  induction pieces using join.induct with
  | case1 => rfl
  | case2 last => simp [join]
  | case3 name next rest hblank ih =>
    rw [join, if_pos hblank, ih fun before n m r hr => h (name :: before) n m r (by rw [hr]; rfl)]
    simp
  | case4 name next rest hblank ih =>
    have hshown : shown name = ":" ++ name ++ ":" := by
      rcases h [] name next rest rfl with hb | hp
      · exact absurd hb hblank
      · rw [shown, hp]
        rfl
    rw [join, if_neg hblank, hshown,
      ih fun before n m r hr => h (name :: next :: before) n m r (by rw [hr]; rfl)]
    simp

/-- **A text without names of pictures** stays as it is. -/
theorem replace_eq_self (h : ¬ HasCode t) : replace t = t := by
  obtain ⟨first, rest, hsplit⟩ := List.exists_cons_of_ne_nil (Text.splitAt_ne_nil (CodePoint.ofChar ':') t)
  have ht : first ++ (rest.flatMap fun p => [CodePoint.ofChar ':'] ++ p) = t := by
    rw [← Text.join_cons, ← hsplit, Text.join_splitAt]
  have hrest : join rest = rest.flatMap fun p => (":" : Text) ++ p := by
    refine join_eq fun before name next more hmore => ?_
    by_contra hno
    obtain ⟨hblank, hpicture⟩ := not_or.1 hno
    refine h ⟨name, ?_, by simpa using hblank, Option.isSome_iff_ne_none.2 hpicture, ?_⟩
    · exact Text.not_mem_of_mem_splitAt (by rw [hsplit, hmore]; simp)
    · refine ⟨first ++ before.flatMap fun p => [CodePoint.ofChar ':'] ++ p,
        next ++ more.flatMap fun p => [CodePoint.ofChar ':'] ++ p, ?_⟩
      rw [← ht, hmore]
      simp
  unfold replace
  rw [hsplit]
  exact (congrArg (first ++ ·) hrest).trans ht

end Pictogram
end Typings
