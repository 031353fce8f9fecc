/-
Wrapped text: what fits a console stays on one line.

- `Text.IsPrintable`: signs of ASCII and blanks only, each of which takes one column.
- `breaks_eq_nil`: a line that fits is not divided.
- `wrapped_eq_iff`: what is written is one given line exactly when it is the text shown. A text that does not fit is
  written as several lines, or loses blanks at its end, so it is known what ends it.
-/
import Typings.Console
import Typings.Proofs.Text.Octets

namespace Typings

namespace Text

variable {t u line : Text}

/-- signs of ASCII and blanks only -/
def IsPrintable (t : Text) : Prop := ∀ c ∈ t, 0x20 ≤ c.val ∧ c.val < 0x7F

-- by the members of the text, not by all code points
instance (t : Text) : Decidable (IsPrintable t) := 
  List.decidableBAll (fun c : CodePoint => 0x20 ≤ c.val ∧ c.val < 0x7F) t

theorem IsPrintable.of_subset (h : t.IsPrintable) (hu : u ⊆ t) : u.IsPrintable := fun c hc => h c (hu hc)

theorem IsPrintable.append (ht : t.IsPrintable) (hu : u.IsPrintable) : (t ++ u).IsPrintable := fun c hc =>
  (List.mem_append.1 hc).elim (ht c) (hu c)

theorem IsPrintable.not_mem (h : t.IsPrintable) {c : CodePoint} (hc : c.val < 0x20) : c ∉ t := fun hm =>
  absurd (h c hm).1 (Nat.not_le_of_gt hc)

theorem IsPrintable.isEncodable (h : t.IsPrintable) : Utf8.isEncodable t = true := by
  rw [Utf8.isEncodable_iff]
  intro c hc
  have hlow := (h c hc).2
  simp only [CodePoint.isSurrogate, Bool.and_eq_false_iff, decide_eq_false_iff_not]
  omega

theorem IsPrintable.cells_eq (h : t.IsPrintable) : t.cells = t.length := by
  have hany : ∀ last, cellsFrom last t = t.length := by
    have hcell : ∀ c ∈ t, c ≠ joiner ∧ c ≠ pictureMark ∧ c.cells = 1 := fun c hc =>
      ⟨fun e => absurd (h c hc) (e ▸ by decide), fun e => absurd (h c hc) (e ▸ by decide), if_pos (h c hc)⟩
    clear h
    induction t with
    | nil => exact fun _ => rfl
    | cons c r ih =>
      obtain ⟨hjoiner, hmark, hone⟩ := hcell c List.mem_cons_self
      intro last
      cases r with
      | nil => rw [cellsFrom, if_neg hjoiner, if_neg hmark, hone, List.length_singleton]
      | cons d r =>
        rw [cellsFrom, if_neg hjoiner, if_neg hmark, ih (fun c hc => hcell c (List.mem_cons_of_mem _ hc)), hone]
        exact Nat.add_comm 1 _
  exact hany none

theorem trimEnd_isPrefix (t : Text) : t.trimEnd <+: t := by
  rw [trimEnd, ← List.reverse_suffix, List.reverse_reverse]
  exact List.dropWhile_suffix _

/-! ## Lines that fit -/

theorem wordsFrom_flatten (line : Text) : (wordsFrom line).flatten = line := by
  induction line with
  | nil => rfl
  | cons c r ih =>
    rw [wordsFrom]
    split
    · rename_i hwords
      rw [hwords] at ih
      simpa using ih
    · rename_i word more hwords
      rw [hwords] at ih
      cases word with
      | nil => simpa using ih
      | cons d word =>
        dsimp only
        split_ifs <;> simpa using ih

theorem words_flatten (line : Text) : (words line).flatten = line := by
  rw [words]
  split
  · rename_i first second more hwords
    rw [← wordsFrom_flatten line, hwords]
    split_ifs <;> simp
  · exact wordsFrom_flatten line

theorem breaksFrom_eq_nil {folds : Bool} {width start used : Nat} {ws : List Text} (h : IsPrintable ws.flatten)
    (hfits : used + ws.flatten.length ≤ width) : breaksFrom folds width start used ws = [] := by
  induction ws generalizing start used with
  | nil => rfl
  | cons word rest ih =>
    rw [List.flatten_cons] at h hfits
    have hword : word.IsPrintable := h.of_subset (List.subset_append_left _ _)
    have hend : word.trimEnd.cells ≤ word.length := by
      rw [(hword.of_subset (trimEnd_isPrefix word).subset).cells_eq]
      exact (trimEnd_isPrefix word).length_le
    rw [List.length_append] at hfits
    rw [breaksFrom, if_pos (by omega), hword.cells_eq]
    exact ih (h.of_subset (List.subset_append_right _ _)) (by omega)

/-- a line that fits is not divided -/
theorem breaks_eq_nil (h : line.IsPrintable) {folds : Bool} {width : Nat} (hfits : line.length ≤ width) :
    breaks folds width line = [] := by
  rw [← words_flatten line] at h hfits
  exact breaksFrom_eq_nil h (by omega)

end Text

/-! ## Lines -/

namespace Styled

variable {s part : Styled}

theorem positionsOf_eq_nil {c : CodePoint} {t : Text} (h : c ∉ t) : positionsOf c t = [] := by
  rw [positionsOf, List.map_eq_nil_iff, List.filter_eq_nil_iff]
  rintro ⟨d, n⟩ hd heq
  exact h (of_decide_eq_true heq ▸ (List.mem_zipIdx hd).2.2 ▸ List.getElem_mem _)

/-- a printable text is one line -/
theorem wrap_eq (h : s.text.IsPrintable) (overflow : Overflow) (width : Nat) :
    s.wrap overflow width =
      (s.divide (Text.breaks (overflow = .fold) width s.text)).map (cutBlanks width) := by
  have hlines : s.lines = [s] := by
    rw [lines, positionsOf_eq_nil (h.not_mem (by decide))]
    rfl
  have htabs : s.expandTabs = s := by
    rw [expandTabs, positionsOf_eq_nil (h.not_mem (by decide))]
    rfl
  rw [wrap, hlines, List.flatMap_singleton, htabs]

theorem text_subset_of_mem_divide {positions : List Nat} (h : part ∈ s.divide positions) : part.text ⊆ s.text := by
  have hslice : ∀ a b, (s.slice a b).text ⊆ s.text := fun a b =>
    List.Subset.trans (List.take_subset _ _) (List.drop_subset _ _)
  have hparts : ∀ a, part ∈ s.partsFrom a positions → part.text ⊆ s.text := by
    clear h
    induction positions with
    | nil =>
      intro a h
      rw [List.mem_singleton.1 h]
      exact hslice _ _
    | cons b positions ih =>
      intro a h
      rcases List.mem_cons.1 h with rfl | h
      · exact hslice _ _
      · exact ih b h
  rw [divide] at h
  split_ifs at h
  · rw [List.mem_singleton.1 h]
    exact List.Subset.refl _
  · exact hparts 0 h

theorem cutBlanks_text_subset (width : Nat) (s : Styled) : (s.cutBlanks width).text ⊆ s.text := by
  unfold cutBlanks
  extract_lets blanks excess
  split_ifs
  · exact List.Subset.refl _
  · exact List.take_subset _ _

/-- a text with a sign at its end loses no blanks there -/
theorem cutBlanks_eq_self {width : Nat}
    (h : s.text.length ≤ width ∨ ∃ c, s.text.getLast? = some c ∧ c.isBlank = false) : s.cutBlanks width = s := by
  have hnothing : min (s.text.length - s.text.trimEnd.length) (s.text.length - width) = 0 := by
    rcases h with hfits | ⟨c, hlast, hsign⟩
    · omega
    · obtain ⟨t, ht⟩ := List.getLast?_eq_some_iff.1 hlast
      have hall : s.text.trimEnd = s.text := by simp [Text.trimEnd, ht, hsign]
      rw [hall]
      omega
  rw [cutBlanks]
  exact if_pos hnothing

/-- a printable text that fits stays one line -/
theorem wrap_of_fits (h : s.text.IsPrintable) (overflow : Overflow) {width : Nat} (hfits : s.text.length ≤ width) :
    s.wrap overflow width = [s] := by
  rw [wrap_eq h, Text.breaks_eq_nil h hfits, divide, List.isEmpty_nil, if_pos rfl, List.map_singleton,
    cutBlanks_eq_self (Or.inl hfits)]

/-- one with a sign at its end stays as it is or is divided -/
theorem wrap_cases (h : s.text.IsPrintable) (overflow : Overflow) (width : Nat)
    (hend : ∃ c, s.text.getLast? = some c ∧ c.isBlank = false) :
    s.wrap overflow width = [s] ∨ ∃ first second more, s.wrap overflow width = first :: second :: more := by
  rw [wrap_eq h, divide]
  split_ifs with hbreaks
  · rw [List.map_singleton, cutBlanks_eq_self (Or.inr hend)]
    exact Or.inl rfl
  · obtain ⟨a, positions, hpositions⟩ := List.exists_cons_of_ne_nil (mt List.isEmpty_iff.2 hbreaks)
    rw [hpositions]
    cases positions <;> exact Or.inr ⟨_, _, _, rfl⟩

end Styled

/-! ## What is written -/

namespace Console

variable {width : Nat} {markup line : Text}

/-- **One line** is written exactly when it is the text shown -/
theorem wrapped_eq_iff (hwidth : 0 < width) (hshown : (Markup.plain markup).IsPrintable) (hline : line.IsPrintable)
    (hfits : line.length ≤ width)
    (hend : (Markup.plain markup).length ≤ width ∨ ∃ c, (Markup.plain markup).getLast? = some c ∧ c.isBlank = false) :
    wrapped width markup = line ++ "\n" ↔ Markup.plain markup = line := by
  let s : Styled := { text := Markup.plain markup }
  rw [wrapped, if_neg (Nat.ne_of_gt hwidth), List.append_left_inj]
  have hsingle : Text.join "\n" ([s].map Styled.text) = Markup.plain markup := List.intercalate_singleton
  rcases hend with hshort | hsign
  · rw [Styled.wrap_of_fits (s := s) hshown .fold hshort, hsingle]
  · rcases Styled.wrap_cases (s := s) hshown .fold width hsign with hone | ⟨first, second, more, hmany⟩
    · rw [hone, hsingle]
    · -- a second line would stand behind a new line, but the text shown has none and fits if it is the line
      refine iff_of_false (fun heq => ?_) fun heq => ?_
      · rw [hmany, List.map_cons, List.map_cons, Text.join_cons] at heq
        exact hline.not_mem (c := 10) (by decide) (heq ▸ by simp [CodePoint.ofChar])
      · have hfit := Styled.wrap_of_fits (s := s) hshown .fold (heq ▸ hfits)
        rw [hmany] at hfit
        cases hfit

theorem isEncodable_wrapped (width : Nat) (hshown : (Markup.plain markup).IsPrintable) :
    Utf8.isEncodable (wrapped width markup) = true := by
  rw [wrapped]
  split_ifs
  · rfl
  · refine Utf8.isEncodable_append.2 ⟨Utf8.isEncodable_join (by decide) fun t ht => ?_, by decide⟩
    obtain ⟨part, hpart, rfl⟩ := List.mem_map.1 ht
    rw [Styled.wrap_eq hshown] at hpart
    obtain ⟨whole, hwhole, rfl⟩ := List.mem_map.1 hpart
    exact (hshown.of_subset (List.Subset.trans (Styled.cutBlanks_text_subset _ _)
      (Styled.text_subset_of_mem_divide hwhole))).isEncodable

end Console
end Typings
