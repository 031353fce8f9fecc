/-
Brackets: the backslashes before them, and the tags they open.

- `trailing`: a text is what stands before its last backslashes, and these; what stands before another sign does not
  count.
- `tag?`: a tag stays one whatever follows it, and backslashes at the end of a piece open none.
- `unescape_keeps_bracket`: a bracket that opens no tag shows with what stands before it only if no backslash does.
-/
import Mathlib.Data.List.Infix
import Typings.Console.Markup
import Typings.Proofs.Text.Pieces

namespace Typings.Markup

variable {t u a b : Text} {p content after : Text} {rest : List Text}

/-! ## Backslashes at the end -/

theorem trailing_eq_replicate (t : Text) :
    trailing t = List.replicate (trailing t).length (CodePoint.ofChar '\\') :=
  List.eq_replicate_iff.2 ⟨rfl, fun c hc => by simpa using List.mem_takeWhile_imp hc⟩

/-- a text is what stands before its last backslashes, and these -/
theorem withoutTrailing_append (t : Text) : withoutTrailing t ++ trailing t = t := by
  have hreverse : (trailing t).reverse = trailing t := by
    rw [trailing_eq_replicate, List.reverse_replicate]
  rw [← hreverse, withoutTrailing, trailing, ← List.reverse_append, List.takeWhile_append_dropWhile,
    List.reverse_reverse]

theorem withoutTrailing_isPrefix (t : Text) : withoutTrailing t <+: t := ⟨trailing t, withoutTrailing_append t⟩

/-- what stands before another sign does not count -/
theorem trailing_append_cons {c : CodePoint} (hc : c ≠ CodePoint.ofChar '\\') (a b : Text) :
    trailing (a ++ c :: b) = trailing b := by
  have hstop : ∀ l : Text, (l ++ c :: a.reverse).takeWhile (fun c => c == CodePoint.ofChar '\\') =
      l.takeWhile fun c => c == CodePoint.ofChar '\\' := by
    intro l
    induction l with
    | nil => simp [hc]
    | cons d l ih => simp only [List.cons_append, List.takeWhile_cons, ih]
  simpa [trailing] using hstop b.reverse

theorem trailing_append_slashes (t : Text) (n : Nat) :
    trailing (t ++ List.replicate n (CodePoint.ofChar '\\')) =
      List.replicate n (CodePoint.ofChar '\\') ++ trailing t := by
  rw [trailing, List.reverse_append, List.reverse_replicate, List.takeWhile_append_of_pos (by simp)]
  rfl

theorem withoutTrailing_append_slashes (t : Text) (n : Nat) :
    withoutTrailing (t ++ List.replicate n (CodePoint.ofChar '\\')) = withoutTrailing t := by
  rw [withoutTrailing, List.reverse_append, List.reverse_replicate, List.dropWhile_append_of_pos (by simp)]
  rfl

theorem endsLone_eq (t : Text) : endsLone t = decide ((trailing t).length = 1) := by
  have hone : ("\\" : Text) = [CodePoint.ofChar '\\'] := rfl
  have htwo : ("\\\\" : Text) = [CodePoint.ofChar '\\', CodePoint.ofChar '\\'] := rfl
  rw [endsLone, trailing, Text.endsWith, Text.endsWith, List.isSuffixOf, List.isSuffixOf, hone, htwo]
  generalize CodePoint.ofChar '\\' = slash
  match t.reverse with
  | [] => rfl
  | [c] => by_cases hc : slash = c <;> simp [hc, Ne.symm]
  | c :: d :: r =>
    by_cases hc : slash = c
    · subst hc
      by_cases hd : slash = d <;> simp [List.isPrefixOf, hd, Ne.symm]
    · simp [hc, Ne.symm hc]

/-! ## Tags -/

theorem close?_eq_some (h : close? t = some (content, after)) : t = content ++ CodePoint.ofChar ']' :: after := by
  induction t generalizing content with
  | nil => cases h
  | cons c r ih =>
    rw [close?] at h
    split_ifs at h with hc
    · cases h
      rw [hc]
      rfl
    · obtain ⟨⟨content', after'⟩, hr, heq⟩ := Option.map_eq_some_iff.1 h
      cases heq
      rw [ih hr]
      rfl

theorem close?_append_some (h : close? t = some (content, after)) (s : Text) :
    close? (t ++ s) = some (content, after ++ s) := by
  induction t generalizing content with
  | nil => cases h
  | cons c r ih =>
    rw [close?] at h
    rw [List.cons_append, close?]
    split_ifs at h ⊢ with hc
    · cases h
      rfl
    · obtain ⟨⟨content', after'⟩, hr, heq⟩ := Option.map_eq_some_iff.1 h
      cases heq
      rw [ih hr]
      rfl

theorem close?_append_none {s : Text} (h : close? t = none) (hs : CodePoint.ofChar ']' ∉ s) :
    close? (t ++ s) = none := by
  induction t with
  | nil =>
    rw [List.nil_append]
    induction s with
    | nil => rfl
    | cons c s ih =>
      obtain ⟨hc, hs⟩ := not_or.1 fun h => hs (List.mem_cons.2 h)
      rw [close?, if_neg (Ne.symm hc), ih hs]
      rfl
  | cons c r ih =>
    rw [close?] at h
    rw [List.cons_append, close?]
    split_ifs at h ⊢ with hc
    rw [ih (by simpa using h)]
    rfl

theorem tag?_eq_some (h : tag? p = some (content, after)) : p = content ++ CodePoint.ofChar ']' :: after := by
  cases p with
  | nil => cases h
  | cons c r =>
    rw [tag?] at h
    split_ifs at h
    obtain ⟨⟨content', after'⟩, hr, heq⟩ := Option.map_eq_some_iff.1 h
    cases heq
    rw [close?_eq_some hr]
    rfl

theorem tag?_append_some (h : tag? p = some (content, after)) (s : Text) :
    tag? (p ++ s) = some (content, after ++ s) := by
  cases p with
  | nil => cases h
  | cons c r =>
    rw [tag?] at h
    rw [List.cons_append, tag?]
    split_ifs at h ⊢ with hc
    obtain ⟨⟨content', after'⟩, hr, heq⟩ := Option.map_eq_some_iff.1 h
    cases heq
    rw [close?_append_some hr]
    rfl

/-- backslashes open no tag and close none -/
theorem tag?_append_none {s : Text} (h : tag? p = none) (hs : ∀ c ∈ s, c = CodePoint.ofChar '\\') :
    tag? (p ++ s) = none := by
  cases p with
  | nil =>
    cases s with
    | nil => rfl
    | cons c s =>
      rw [List.nil_append, tag?, hs c List.mem_cons_self]
      rfl
  | cons c r =>
    rw [tag?] at h
    rw [List.cons_append, tag?]
    split_ifs at h ⊢
    · have hclose : CodePoint.ofChar ']' ∉ s := fun hm => absurd (hs _ hm) (by decide)
      rw [close?_append_none (by simpa using h) hclose]
      rfl
    · rfl

/-- the backslashes at the end of a piece with a tag stand behind that -/
theorem trailing_of_tag (h : tag? p = some (content, after)) : trailing p = trailing after := by
  rw [tag?_eq_some h]
  exact trailing_append_cons (by decide) _ _

/-! ## Unescaped brackets -/

theorem unescape_sublist (t : Text) : (unescapeBrackets t).Sublist t := by
  induction t using unescapeBrackets.induct with
  | case1 => exact List.Sublist.slnil
  | case2 c => exact List.Sublist.refl _
  | case3 c d r hcut ih =>
    rw [unescapeBrackets, if_pos hcut]
    exact ih.cons _
  | case4 c d r hkept ih =>
    rw [unescapeBrackets, if_neg hkept]
    exact ih.cons_cons _

theorem unescape_eq_self (h : CodePoint.ofChar '[' ∉ t) : unescapeBrackets t = t := by
  induction t using unescapeBrackets.induct with
  | case1 => rfl
  | case2 c => rfl
  | case3 c d r hcut => exact absurd (by simp [hcut.2]) h
  | case4 c d r hkept ih => rw [unescapeBrackets, if_neg hkept, ih fun hm => h (List.mem_cons_of_mem _ hm)]

theorem unescape_append (h : a.getLast? ≠ some (CodePoint.ofChar '\\') ∨ b.head? ≠ some (CodePoint.ofChar '[')) :
    unescapeBrackets (a ++ b) = unescapeBrackets a ++ unescapeBrackets b := by
  induction a using unescapeBrackets.induct with
  | case1 => rfl
  | case2 c =>
    cases b with
    | nil => rfl
    | cons d b =>
      have hkept : ¬ (c = CodePoint.ofChar '\\' ∧ d = CodePoint.ofChar '[') := by
        rintro ⟨rfl, rfl⟩
        simp at h
      exact if_neg hkept
  | case3 c d r hcut ih =>
    rw [List.cons_append, List.cons_append, unescapeBrackets, unescapeBrackets, if_pos hcut, if_pos hcut]
    exact ih (by simpa using h)
  | case4 c d r hkept ih =>
    rw [List.cons_append, List.cons_append, unescapeBrackets, unescapeBrackets, if_neg hkept, if_neg hkept,
      List.cons_append]
    exact congrArg (c :: ·) (ih (by simpa using h))

theorem trailing_eq_nil_iff : trailing t = [] ↔ t.getLast? ≠ some (CodePoint.ofChar '\\') := by
  rcases List.eq_nil_or_concat t with rfl | ⟨a, c, rfl⟩
  · simp [trailing]
  · simp [trailing]

/-- backslashes at the end stay -/
theorem unescape_trailing (t : Text) :
    unescapeBrackets t = unescapeBrackets (withoutTrailing t) ++ trailing t := by
  have hno : ∀ c ∈ trailing t, c = CodePoint.ofChar '\\' := fun c hc => by simpa using List.mem_takeWhile_imp hc
  conv_lhs => rw [← withoutTrailing_append t]
  rw [unescape_append (Or.inr fun hhead => absurd (hno _ (List.mem_of_mem_head? hhead)) (by decide)),
    unescape_eq_self (t := trailing t) fun hm => absurd (hno _ hm) (by decide)]

theorem unescape_bracket (hp : CodePoint.ofChar '[' ∉ p) :
    unescapeBrackets (CodePoint.ofChar '[' :: p) = CodePoint.ofChar '[' :: p := by
  have h := unescape_append (a := [CodePoint.ofChar '[']) (b := p) (Or.inl (by decide))
  rwa [unescape_eq_self hp] at h

/-- **A bracket** in a text keeps what stands before it only if that does not end in a backslash. -/
theorem unescape_keeps_bracket (hp : CodePoint.ofChar '[' ∉ p) :
    unescapeBrackets (a ++ CodePoint.ofChar '[' :: p) = a ++ CodePoint.ofChar '[' :: p ↔
      unescapeBrackets a = a ∧ trailing a = [] := by
  by_cases ha : trailing a = []
  · rw [unescape_append (Or.inl (trailing_eq_nil_iff.1 ha)), unescape_bracket hp, List.append_left_inj]
    exact (and_iff_left ha).symm
  · refine iff_of_false (fun heq => ?_) fun h => ha h.2
    -- the last backslash is lost
    obtain ⟨a', rfl⟩ := List.getLast?_eq_some_iff.1 (not_not.1 fun h => ha (trailing_eq_nil_iff.2 h))
    have hlost : unescapeBrackets (a' ++ [CodePoint.ofChar '\\'] ++ CodePoint.ofChar '[' :: p) =
        unescapeBrackets a' ++ CodePoint.ofChar '[' :: p := by
      have hhead : ([CodePoint.ofChar '\\'] ++ CodePoint.ofChar '[' :: p).head? ≠ some (CodePoint.ofChar '[') := by
        rw [List.singleton_append, List.head?_cons]
        decide
      rw [List.append_assoc, unescape_append (Or.inr hhead)]
      exact congrArg _ (unescape_bracket hp)
    have hlength := congrArg List.length (hlost.symm.trans heq)
    have hle := (unescape_sublist a').length_le
    simp only [List.length_append, List.length_cons, List.length_nil] at hlength
    omega

theorem prefix_of_unescape {w : Text} (hw : CodePoint.ofChar '[' ∉ w) (h : w <+: unescapeBrackets t) : w <+: t := by
  induction t using unescapeBrackets.induct generalizing w with
  | case1 => exact h
  | case2 c => exact h
  | case3 c d r hcut ih =>
    rw [unescapeBrackets, if_pos hcut] at h
    cases w with
    | nil => exact List.nil_prefix
    | cons e w =>
      have he := (List.cons_prefix_cons.1 (ih hw h)).1
      exact absurd (by simp [he, hcut.2]) hw
  | case4 c d r hkept ih =>
    rw [unescapeBrackets, if_neg hkept] at h
    cases w with
    | nil => exact List.nil_prefix
    | cons e w =>
      obtain ⟨he, hrest⟩ := List.cons_prefix_cons.1 h
      exact List.cons_prefix_cons.2 ⟨he, ih (fun hm => hw (List.mem_cons_of_mem _ hm)) hrest⟩

/-- what has no bracket stood in a text before -/
theorem infix_of_unescape {w : Text} (hw : CodePoint.ofChar '[' ∉ w) (h : w <:+: unescapeBrackets t) : w <:+: t := by
  induction t using unescapeBrackets.induct with
  | case1 => exact h
  | case2 c => exact h
  | case3 c d r hcut ih =>
    rw [unescapeBrackets, if_pos hcut] at h
    exact List.infix_cons (ih h)
  | case4 c d r hkept ih =>
    have hhead := prefix_of_unescape (t := c :: d :: r) hw
    rw [unescapeBrackets, if_neg hkept] at h hhead
    rcases List.infix_cons_iff.1 h with h | h
    · exact (hhead h).isInfix
    · exact List.infix_cons (ih h)

end Typings.Markup
