/-
Names: into what a type name is split, and to what it is resolved.

A dotted name is written as its short name is, so resolving it comes down to resolving the short name, in which no dot
is left to resolve.
- `split_eq_error_iff`, `split_eq_ok_iff`: what is split, and into what.
- `resolveWith_resolveWith`: a second step of the resolution is the last one; `resolveWith_resolve`: `resolve` is what
  the steps come to.
- `settles_bare`, `settles_dotted`: what is written for a name and what that leaves, from its parts.
- `resolve_settles`: every name ends with its dot and is refused, or is resolved to a name that stands for itself.
-/
import Typings.Proofs.Declaration.Emitted

namespace Typings.TypeName

variable {name package last : Text}

/-! ## Splitting -/

/-- a name with nothing to emit is not split -/
theorem split_eq_error_iff {e : Unnamed} :
    split name = .error e ↔ (name = [] ∨ dangles name = true) ∧ e = ⟨name⟩ := by
  rw [← short_eq_nil_iff]
  unfold split short
  cases name.splitLast '.' with
  | none =>
    simp only [List.isEmpty_iff]
    split_ifs with h <;> simp [h, eq_comm]
  | some parts =>
    simp only [List.isEmpty_iff]
    split_ifs with h <;> simp [h, eq_comm]

/-- a dotted name is split at its last dot, any other one has no package -/
theorem split_eq_ok_iff : split name = .ok (package, last) ↔ last ≠ [] ∧ CodePoint.ofChar '.' ∉ last ∧
    (name = package ++ CodePoint.ofChar '.' :: last ∨ package = [] ∧ name = last) := by
  constructor
  · intro h
    unfold split at h
    cases hs : name.splitLast '.' with
    | none =>
      simp only [hs] at h
      split_ifs at h with hempty
      cases h
      exact ⟨by simpa using hempty, Text.splitLast_eq_none hs, Or.inr ⟨rfl, rfl⟩⟩
    | some parts =>
      simp only [hs] at h
      split_ifs at h with hempty
      cases h
      obtain ⟨hname, hlast⟩ := Text.splitLast_eq_some hs
      exact ⟨by simpa using hempty, hlast, Or.inl hname⟩
  · rintro ⟨hne, hlast, rfl | ⟨rfl, rfl⟩⟩
    · simp [split, Text.splitLast_append hlast, hne]
    · simp [split, Text.splitLast_of_not_mem hlast, hne]

/-! ## Steps of the resolution -/

/-- one step: a bare name is spelled, a dotted one is what `again` makes of its short name -/
def resolveWith (again : Text → Resolving Text) (name : Text) : Resolving Text := do
  if name.contains (CodePoint.ofChar '.') then
    let (package, short) ← liftM (split name)
    let written ← again short
    unless isPrimitive written do
      modify (·.bind short package)
    return written
  else
    return spell name

variable (again : Text → Resolving Text)

theorem resolveWith_bare (h : CodePoint.ofChar '.' ∉ name) : resolveWith again name = pure (spell name) := by
  simp [resolveWith, h]

/-- a step asks again for a name without a dot only -/
theorem resolveWith_eq_resolve (h : ∀ short, CodePoint.ofChar '.' ∉ short → again short = pure (spell short))
    (name : Text) : resolveWith again name = resolve name := by
  by_cases hdot : CodePoint.ofChar '.' ∈ name
  · simp only [resolveWith, resolve, List.contains_iff_mem, hdot, if_true]
    cases hsplit : split name with
    | error e => rfl
    | ok parts =>
      obtain ⟨package, last⟩ := parts
      obtain ⟨-, hlast, -⟩ := split_eq_ok_iff.1 hsplit
      change (again last >>= fun written => _) = _
      rw [h last hlast]
      rfl
  · rw [resolveWith_bare again hdot, resolve_bare hdot]

/-- **Two steps are enough**, whatever a third one would do. -/
theorem resolveWith_resolveWith (name : Text) : resolveWith (resolveWith again) name = resolve name :=
  resolveWith_eq_resolve _ (fun _ h => resolveWith_bare again h) name

theorem resolveWith_resolve (name : Text) : resolveWith resolve name = resolve name :=
  resolveWith_eq_resolve _ (fun _ h => resolve_bare h) name

/-! ## What names are resolved to -/

/-- what is spelled is spelled as it is -/
theorem spell_spell (short : Text) : spell (spell short) = spell short := by
  simp only [spell_eq]
  split_ifs with h h'
  · exact absurd h' (by decide)
  · rfl
  · rfl

/-- so it stands for itself, and leaves nothing -/
theorem run_spell (h : CodePoint.ofChar '.' ∉ name) (s : ImportSet) :
    (resolve (spell name)).run s = (.ok (spell name), s) := by
  rw [run_bare (dot_not_mem_spell h), spell_spell]

/-- what is written for a name, and what that leaves -/
structure Settles (name shown : Text) : Prop where
  undotted : CodePoint.ofChar '.' ∉ shown
  /-- it stands for itself -/
  again : ∀ s, (resolve shown).run s = (.ok shown, s)
  bare : CodePoint.ofChar '.' ∉ name → ∀ s, (resolve name).run s = (.ok shown, s)
  /-- the part behind the last dot is written in the same way, and only the whole name leaves a statement -/
  dotted : ∀ package last, name = package ++ CodePoint.ofChar '.' :: last → CodePoint.ofChar '.' ∉ last →
    (∀ s, (resolve last).run s = (.ok shown, s)) ∧
      ∀ s, (resolve name).run s = (.ok shown, if isPrimitive shown then s else s.bind last package)
  /-- there is one statement or none -/
  leaves : ((resolve name).run ImportSet.empty).2.size =
    if CodePoint.ofChar '.' ∈ name ∧ isPrimitive shown = false then 1 else 0

theorem settles_bare (h : CodePoint.ofChar '.' ∉ name) : Settles name (spell name) where
  undotted := dot_not_mem_spell h
  again := run_spell h
  bare _ := run_bare h
  dotted package last hname _ := absurd (by simp [hname]) h
  leaves := by
    rw [run_bare h, if_neg fun hdot => h hdot.1]
    rfl

theorem settles_dotted (hne : last ≠ []) (hlast : CodePoint.ofChar '.' ∉ last) (package : Text) :
    Settles (package ++ CodePoint.ofChar '.' :: last) (spell last) where
  undotted := dot_not_mem_spell hlast
  again := run_spell hlast
  bare h := absurd (by simp) h
  dotted package' last' hname hlast' := by
    -- the last dot of a name is where it is
    have hsplit := Text.splitLast_append hlast package
    rw [hname, Text.splitLast_append hlast'] at hsplit
    cases hsplit
    exact ⟨run_bare hlast, run_dotted hne hlast package⟩
  leaves := by
    rw [run_dotted hne hlast]
    cases isPrimitive (spell last)
    · simp [ImportSet.bind, ImportSet.register, ImportSet.size, ImportSet.empty]
    · simp [ImportSet.size, ImportSet.empty]

theorem exists_settles (h : dangles name = false) : ∃ shown, Settles name shown := by
  by_cases hdot : CodePoint.ofChar '.' ∈ name
  · obtain ⟨package, last, rfl, hlast⟩ := Text.exists_last hdot
    have hne : last ≠ [] := by
      rintro rfl
      rw [(dangles_append_iff hlast package).2 rfl] at h
      cases h
    exact ⟨spell last, settles_dotted hne hlast package⟩
  · exact ⟨spell name, settles_bare hdot⟩

/-- **Every name is settled.** A name is split unless it is empty or ends with a dot, and its short name, in which no dot
stands, makes it up again with its package. Resolving it comes to an end after two steps. One that ends with a dot is
refused and leaves nothing; any other one is written without a dot, as its short name alone is, stands for itself then,
and leaves one statement if it is dotted and no primitive is written for it, and none otherwise. -/
theorem resolve_settles (name : Text) :
    ((∀ e, split name = .error e ↔ (name = [] ∨ name.endsWith "." = true) ∧ e = ⟨name⟩) ∧
      ∀ package last, split name = .ok (package, last) → CodePoint.ofChar '.' ∉ last ∧
        (CodePoint.ofChar '.' ∈ name → package ++ "." ++ last = name)) ∧
    (resolveWith resolve name = resolve name ∧ ∀ again, resolveWith (resolveWith again) name = resolve name) ∧
    (name.endsWith "." = true ∧ (∀ s, (resolve name).run s = (.error ⟨name⟩, s)) ∨
      name.endsWith "." = false ∧ ∃ shown, Settles name shown) := by
  have hparts : ∀ package last, split name = .ok (package, last) → CodePoint.ofChar '.' ∉ last ∧
      (CodePoint.ofChar '.' ∈ name → package ++ "." ++ last = name) := by
    intro package last h
    obtain ⟨-, hlast, hname | ⟨-, hname⟩⟩ := split_eq_ok_iff.1 h
    · exact ⟨hlast, fun _ => by simp [hname]⟩
    · exact ⟨hlast, fun hdot => absurd (hname ▸ hdot) hlast⟩
  refine ⟨⟨fun e => split_eq_error_iff, hparts⟩, ⟨resolveWith_resolve name, ?_⟩, ?_⟩
  · intro again
    exact resolveWith_resolveWith again name
  · cases hd : dangles name with
    | true => exact Or.inl ⟨hd, run_dangling hd⟩
    | false => exact Or.inr ⟨hd, exists_settles hd⟩

example : (resolve "a..String").run ImportSet.empty = (.ok "string", ImportSet.empty) ∧
    (resolve "a..string").run ImportSet.empty = (.ok "string", ImportSet.empty) ∧
    (resolve "a..Node").run ImportSet.empty = (.ok "Node", ImportSet.empty.bind "Node" "a.") :=
  ⟨rfl, rfl, rfl⟩

end Typings.TypeName
