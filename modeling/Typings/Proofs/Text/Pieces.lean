/-
Pieces of a text: what stands between its separators.

- `splitAt_append_sep`: a text is split at a separator; what is known of pieces follows from this one equation.
- `splitLast_append`, `splitLast_eq_some`: the last separator is the one with none behind it.
- `lastPiece`: the piece behind the last separator, the whole text without one.
-/
import Mathlib.Data.List.TakeWhile
import Mathlib.Tactic
import Typings.Text.Basic

namespace Typings.Text

variable {sep : CodePoint}

/-! ## All pieces -/

theorem splitAt_ne_nil (sep : CodePoint) (t : Text) : splitAt sep t ≠ [] := by
  cases t with
  | nil => simp [splitAt]
  | cons c r =>
    simp only [splitAt]
    split_ifs
    · simp
    · split <;> simp

/-- **A text is split at a separator.** -/
theorem splitAt_append_sep (a b : Text) : splitAt sep (a ++ sep :: b) = splitAt sep a ++ splitAt sep b := by
  induction a with
  | nil => simp [splitAt]
  | cons c a ih =>
    simp only [List.cons_append, splitAt, ih]
    split_ifs
    · rfl
    · obtain ⟨p, ps, h⟩ := List.exists_cons_of_ne_nil (splitAt_ne_nil sep a)
      simp [h]

theorem splitAt_sep_cons (b : Text) : splitAt sep (sep :: b) = [] :: splitAt sep b :=
  splitAt_append_sep [] b

/-- a text in front that has no separator belongs to the first piece -/
theorem splitAt_append_of_not_mem {a : Text} (ha : sep ∉ a) {b p : Text} {ps : List Text}
    (hb : splitAt sep b = p :: ps) : splitAt sep (a ++ b) = (a ++ p) :: ps := by
  induction a with
  | nil => exact hb
  | cons c a ih =>
    have hc : c ≠ sep := fun h => ha (h ▸ List.mem_cons_self)
    simp [splitAt, hc, ih fun h => ha (List.mem_cons_of_mem _ h)]

theorem splitAt_of_not_mem {t : Text} (ht : sep ∉ t) : splitAt sep t = [t] := by
  simpa using splitAt_append_of_not_mem ht (splitAt.eq_1 sep)

theorem not_mem_of_mem_splitAt {t p : Text} (h : p ∈ splitAt sep t) : sep ∉ p := by
  induction t generalizing p with
  | nil => simp_all [splitAt]
  | cons c r ih =>
    simp only [splitAt] at h
    obtain ⟨q, qs, hq⟩ := List.exists_cons_of_ne_nil (splitAt_ne_nil sep r)
    rw [hq] at h
    split_ifs at h with hc
    · rcases List.mem_cons.1 h with rfl | h
      · simp
      · exact ih (hq ▸ h)
    · rcases List.mem_cons.1 h with rfl | h
      · have hs : sep ∉ q := ih (hq ▸ List.mem_cons_self)
        simpa [hs] using Ne.symm hc
      · exact ih (hq ▸ List.mem_cons_of_mem _ h)

theorem mem_of_mem_splitAt {t p : Text} (h : p ∈ splitAt sep t) {c : CodePoint} (hc : c ∈ p) : c ∈ t := by
  induction t generalizing p with
  | nil => simp_all [splitAt]
  | cons d r ih =>
    simp only [splitAt] at h
    obtain ⟨q, qs, hq⟩ := List.exists_cons_of_ne_nil (splitAt_ne_nil sep r)
    rw [hq] at h
    have hrest : ∀ p' ∈ q :: qs, c ∈ p' → c ∈ d :: r := fun p' hp' hc' => List.mem_cons_of_mem _ (ih (hq ▸ hp') hc')
    split_ifs at h with hd
    · rcases List.mem_cons.1 h with rfl | h
      · cases hc
      · exact hrest p h hc
    · rcases List.mem_cons.1 h with rfl | h
      · rcases List.mem_cons.1 hc with rfl | hc
        · exact List.mem_cons_self
        · exact hrest q List.mem_cons_self hc
      · exact hrest p (List.mem_cons_of_mem _ h) hc

theorem join_cons (between a : Text) (ts : List Text) :
    join between (a :: ts) = a ++ ts.flatMap fun t => between ++ t := by
  induction ts generalizing a with
  | nil => simp [join]
  | cons b ts ih =>
    rw [List.flatMap_cons, join, List.intercalate_cons_cons, ← join, ih b]
    simp

/-- splitting and joining -/
theorem join_splitAt (sep : CodePoint) (t : Text) : join [sep] (splitAt sep t) = t := by
  induction t with
  | nil => rfl
  | cons c r ih =>
    obtain ⟨p, ps, h⟩ := List.exists_cons_of_ne_nil (splitAt_ne_nil sep r)
    rw [h, join_cons] at ih
    by_cases hc : c = sep
    · subst hc
      rw [splitAt_sep_cons, h, join_cons, List.flatMap_cons, List.append_assoc, ih]
      rfl
    · simp only [splitAt, if_neg hc, h]
      rw [join_cons, List.cons_append, ih]

/-- what stands in joined texts stands in one of them or in what is between them -/
theorem mem_join {between : Text} {ts : List Text} {c : CodePoint} (h : c ∈ join between ts) :
    c ∈ between ∨ ∃ t ∈ ts, c ∈ t := by
  induction ts with
  | nil => cases h
  | cons t ts ih =>
    cases ts with
    | nil =>
      rw [join, List.intercalate_singleton] at h
      exact Or.inr ⟨t, List.mem_cons_self, h⟩
    | cons u ts =>
      rw [join, List.intercalate_cons_cons, List.mem_append, List.mem_append] at h
      rcases h with (h | h) | h
      · exact Or.inr ⟨t, List.mem_cons_self, h⟩
      · exact Or.inl h
      · exact (ih h).imp_right fun ⟨v, hv, hc⟩ => ⟨v, List.mem_cons_of_mem _ hv, hc⟩

/-- joining and splitting: the pieces of the joined texts in turn -/
theorem splitAt_join {ts : List Text} (h : ts ≠ []) : splitAt sep (join [sep] ts) = ts.flatMap (splitAt sep) := by
  induction ts with
  | nil => exact absurd rfl h
  | cons a r ih =>
    cases r with
    | nil => simp [join]
    | cons b r =>
      unfold join at ih ⊢
      rw [List.intercalate_cons_cons, List.append_assoc, List.singleton_append, splitAt_append_sep, ih (by simp),
        List.flatMap_cons (x := a)]

/-! ## The last separator -/

theorem splitLast_of_not_mem {t : Text} (ht : sep ∉ t) : splitLast sep t = none := by
  induction t with
  | nil => rfl
  | cons c r ih =>
    have hc : c ≠ sep := fun h => ht (h ▸ List.mem_cons_self)
    simp [splitLast, ih fun h => ht (List.mem_cons_of_mem _ h), hc]

theorem splitLast_append {b : Text} (hb : sep ∉ b) (a : Text) : splitLast sep (a ++ sep :: b) = some (a, b) := by
  induction a with
  | nil => simp [splitLast, splitLast_of_not_mem hb]
  | cons c a ih => simp [splitLast, ih]

theorem splitLast_eq_none {t : Text} (h : splitLast sep t = none) : sep ∉ t := by
  induction t with
  | nil => simp
  | cons c r ih =>
    simp only [splitLast] at h
    split at h
    · cases h
    · rename_i hr
      split_ifs at h with hc
      simpa [ih hr] using Ne.symm hc

theorem splitLast_eq_some {t a b : Text} (h : splitLast sep t = some (a, b)) : t = a ++ sep :: b ∧ sep ∉ b := by
  induction t generalizing a b with
  | nil => simp [splitLast] at h
  | cons c r ih =>
    simp only [splitLast] at h
    split at h
    · rename_i before after hr
      simp only [Option.some.injEq, Prod.mk.injEq] at h
      obtain ⟨rfl, rfl⟩ := h
      obtain ⟨h1, h2⟩ := ih hr
      exact ⟨by rw [h1]; rfl, h2⟩
    · rename_i hr
      split_ifs at h with hc
      simp only [Option.some.injEq, Prod.mk.injEq] at h
      obtain ⟨rfl, rfl⟩ := h
      exact ⟨by rw [hc]; rfl, splitLast_eq_none hr⟩

/-- a text with a separator in it is divided by its last one -/
theorem exists_last {t : Text} (h : sep ∈ t) : ∃ a b, t = a ++ sep :: b ∧ sep ∉ b := by
  cases hs : splitLast sep t with
  | none => exact absurd h (splitLast_eq_none hs)
  | some parts => exact ⟨parts.1, parts.2, splitLast_eq_some hs⟩

/-! ## The last piece -/

/-- what stands behind the last separator, the whole text without one -/
def lastPiece (sep : CodePoint) (t : Text) : Text := ((splitLast sep t).map Prod.snd).getD t

theorem lastPiece_of_not_mem {t : Text} (ht : sep ∉ t) : lastPiece sep t = t := by
  simp [lastPiece, splitLast_of_not_mem ht]

theorem not_mem_lastPiece (t : Text) : sep ∉ lastPiece sep t := by
  unfold lastPiece
  cases h : splitLast sep t with
  | none => exact splitLast_eq_none h
  | some p => exact (splitLast_eq_some (a := p.1) (b := p.2) h).2

/-- a text is its last piece, or ends in a separator and its last piece -/
theorem lastPiece_cases (sep : CodePoint) (t : Text) :
    (sep ∉ t ∧ lastPiece sep t = t) ∨ ∃ a, t = a ++ sep :: lastPiece sep t := by
  cases h : splitLast sep t with
  | none => exact Or.inl ⟨splitLast_eq_none h, by simp [lastPiece, h]⟩
  | some p => exact Or.inr ⟨p.1, by simpa [lastPiece, h] using (splitLast_eq_some (a := p.1) (b := p.2) h).1⟩

theorem lastPiece_of_append {b : Text} (hb : sep ∉ b) (a : Text) : lastPiece sep (a ++ sep :: b) = b := by
  simp [lastPiece, splitLast_append hb]

theorem lastPiece_append_sep (a b : Text) : lastPiece sep (a ++ sep :: b) = lastPiece sep b := by
  rcases lastPiece_cases sep b with ⟨hb, h⟩ | ⟨c, hc⟩
  · rw [h, lastPiece_of_append hb]
  · have e : a ++ sep :: b = (a ++ sep :: c) ++ sep :: lastPiece sep b := by
      rw [List.append_assoc, List.cons_append, ← hc]
    rw [e, lastPiece_of_append (not_mem_lastPiece b)]

theorem lastPiece_append_of_not_mem {s : Text} (hs : sep ∉ s) (t : Text) :
    lastPiece sep (t ++ s) = lastPiece sep t ++ s := by
  rcases lastPiece_cases sep t with ⟨ht, h⟩ | ⟨a, ha⟩
  · rw [h, lastPiece_of_not_mem (by simp [ht, hs])]
  · have hn : sep ∉ lastPiece sep t ++ s := by simp [not_mem_lastPiece, hs]
    have e : t ++ s = a ++ sep :: (lastPiece sep t ++ s) := by
      rw [← List.cons_append, ← List.append_assoc, ← ha]
    rw [e, lastPiece_append_sep, lastPiece_of_not_mem hn]

theorem lastPiece_suffix (t : Text) : lastPiece sep t <:+ t := by
  rcases lastPiece_cases sep t with ⟨_, h⟩ | ⟨a, ha⟩
  · rw [h]
  · exact ⟨a ++ [sep], by rw [List.append_assoc, List.singleton_append]; exact ha.symm⟩

/-- a suffix without separators is one of the last piece -/
theorem suffix_lastPiece {s t : Text} (hs : sep ∉ s) (h : s <:+ t) : s <:+ lastPiece sep t := by
  obtain ⟨a, rfl⟩ := h
  rw [lastPiece_append_of_not_mem hs]
  exact List.suffix_append _ _

/-- the pieces of a text end in its last one -/
theorem splitAt_eq_append (sep : CodePoint) (t : Text) : ∃ ps, splitAt sep t = ps ++ [lastPiece sep t] := by
  rcases lastPiece_cases sep t with ⟨ht, h⟩ | ⟨a, ha⟩
  · exact ⟨[], by rw [splitAt_of_not_mem ht, h]; rfl⟩
  · refine ⟨splitAt sep a, ?_⟩
    conv_lhs => rw [ha]
    rw [splitAt_append_sep, splitAt_of_not_mem (not_mem_lastPiece t)]

end Typings.Text
