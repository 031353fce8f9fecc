/-
Indifference: what has no effect on a check.

Issues are told in short without the values they were found with, so that two checks are told alike if they find the
same at the same places.
- `bare_both`, `bare_inside`, `bare_all`: what is told of checks that are put together is told of their parts.
- `indifferent_list`, `indifferent_record`: a check that is indifferent to a difference makes one of lists and of
  records that is so too; a record is indifferent to the order of its members and to all members it does not ask for.
-/
import Typings.Proofs.Shape.Decision

namespace Typings.Shape

open Checked Value

variable {α β : Type}

/-! ## Bare issues -/

/-- an issue without the value that was found -/
def Issue.bare (i : Issue) : Issue := { i with input := .null }

/-- a result, or what is told of it in short -/
def Checked.bare : Checked α → Checked α
  | .ok a => .ok a
  | .bad issues => .bad (issues.map Issue.bare)

theorem summary_bare (issues : List Issue) : summary (issues.map Issue.bare) = summary issues := by
  rw [summary, List.map_map]
  rfl

theorem bare_both (f : Checked (α → β)) (x : Checked α) : (both f x).bare = both f.bare x.bare := by
  cases f <;> cases x <;> simp [both, bare]

theorem bare_map (f : α → β) (x : Checked α) : (Checked.map f x).bare = Checked.map f x.bare := by
  cases x <;> rfl

theorem bare_inside (step : Text) (x : Checked α) : (inside step x).bare = inside step x.bare := by
  cases x with
  | ok a => rfl
  | bad issues =>
    simp only [inside, bare, List.map_map]
    rfl

theorem bare_seq (f : Checked (α → β)) (x : Checked α) : (f <*> x).bare = f.bare <*> x.bare := bare_both f x

theorem bare_fmap (f : α → β) (x : Checked α) : (f <$> x).bare = f <$> x.bare := bare_map f x

/-! ## Lists and records -/

/-- a check of which nothing else is told where a value is replaced by a related one -/
def Indifferent (check : Value → Checked α) (R : Value → Value → Prop) : Prop :=
  ∀ v v', R v v' → (check v').bare = (check v).bare

/-- one value, or two lists with related items -/
inductive SameItems (R : Value → Value → Prop) : Value → Value → Prop
  | refl (v : Value) : SameItems R v v
  | list {items items' : List Value} (h : List.Forall₂ R items items') : SameItems R (.list items) (.list items')

/-- one value, or two objects whose members under some keys are related -/
inductive SameMembers (known : List (Text × (Value → Value → Prop))) : Value → Value → Prop
  | refl (v : Value) : SameMembers known v v
  | object {fields fields' : List (Text × Value)}
      (h : ∀ e ∈ known, Option.Rel e.2 (held fields e.1) (held fields' e.1)) :
      SameMembers known (.map (keyed fields)) (.map (keyed fields'))

variable {check : Value → Checked α} {R S : Value → Value → Prop} {fields fields' : List (Text × Value)}
  {name other : Text}

theorem indifferent_list (hc : Indifferent check R) : Indifferent (list check) (SameItems R) := by
  intro v v' h
  cases h with
  | refl => rfl
  | @list items items' h =>
    have hall : ∀ step : Nat → Text, (all (items'.mapIdx fun i item => inside (step i) (check item))).bare =
        (all (items.mapIdx fun i item => inside (step i) (check item))).bare := by
      induction h with
      | nil => exact fun _ => rfl
      | cons hv _ ih =>
        intro step
        simp only [List.mapIdx_cons, all, bare_both, bare_map, bare_inside, hc _ _ hv, ih fun i => step (i + 1)]
    exact hall Text.ofNat

theorem indifferent_optional (hc : Indifferent check R) (hnull : ∀ v, R .null v → v = .null)
    (hnull' : ∀ v, R v .null → v = .null) : Indifferent (optional check) R := by
  intro v v' h
  have hsome : ∀ w : Value, w ≠ .null → optional check w = Checked.map some (check w) := by
    intro w hw
    cases w <;> first | rfl | exact absurd rfl hw
  by_cases hv : v = .null
  · subst hv
    rw [hnull v' h]
  · have hv' : v' ≠ .null := by
      rintro rfl
      exact hv (hnull' v h)
    rw [hsome v hv, hsome v' hv', bare_map, bare_map, hc v v' h]

/-- parts of records: the same key, and related values -/
abbrev SamePart (R : Value → Value → Prop) : Option (Text × Value) → Option (Text × Value) → Prop :=
  Option.Rel fun x y => x.1 = y.1 ∧ R x.2 y.2

/-- a part is found again where related members are -/
theorem samePart (hn : Option.Rel R (held fields name) (held fields' name)) :
    SamePart R (part? (keyed fields) name none) (part? (keyed fields') name none) := by
  simp only [part?, get?_held]
  generalize held fields name = x at hn ⊢
  generalize held fields' name = y at hn ⊢
  cases hn with
  | none => exact .none
  | some h => exact .some ⟨rfl, h⟩

theorem samePart_spelled (hn : Option.Rel R (held fields name) (held fields' name))
    (ho : Option.Rel R (held fields other) (held fields' other)) :
    SamePart R (part? (keyed fields) name (some other)) (part? (keyed fields') name (some other)) := by
  have hname := samePart hn
  simp only [part?, get?_held] at hname ⊢
  generalize held fields other = x at ho ⊢
  generalize held fields' other = y at ho ⊢
  cases ho with
  | none => exact hname
  | some h => exact .some ⟨rfl, h⟩

/-- parts that are the same are both missing or checked alike -/
theorem SamePart.alike (hc : Indifferent check R) {p p' : Option (Text × Value)} (h : SamePart R p p') :
    (p = none ∧ p' = none) ∨ ∃ k v v', p = some (k, v) ∧ p' = some (k, v') ∧
      (inside k (check v')).bare = (inside k (check v)).bare := by
  cases h with
  | none => exact Or.inl ⟨rfl, rfl⟩
  | @some a b h =>
    obtain ⟨k, v⟩ := a
    obtain ⟨k', v'⟩ := b
    obtain ⟨rfl, hv⟩ := h
    exact Or.inr ⟨k, v, v', rfl, rfl, by rw [bare_inside, bare_inside, hc v v' hv]⟩

section

variable {o : Option Text} (hc : Indifferent check R)
  (h : SamePart R (part? (keyed fields) name o) (part? (keyed fields') name o))

include hc h

theorem bare_required (v v' : Value) :
    (required v' (keyed fields') name o check).bare = (required v (keyed fields) name o check).bare := by
  rcases h.alike hc with ⟨hp, hp'⟩ | ⟨k, w, w', hp, hp', hw⟩
  · rw [required, required, hp, hp']
    rfl
  · rw [required, required, hp, hp']
    exact hw

theorem bare_withDefault (default : α) : (withDefault (keyed fields') name o default check).bare =
    (withDefault (keyed fields) name o default check).bare := by
  rcases h.alike hc with ⟨hp, hp'⟩ | ⟨k, w, w', hp, hp', hw⟩
  · rw [withDefault, withDefault, hp, hp']
  · rw [withDefault, withDefault, hp, hp']
    exact hw

end

theorem indifferent_record {known : List (Text × (Value → Value → Prop))} {record : Text}
    {check : Value → List (Value × Value) → Checked α}
    (hc : ∀ fields fields' : List (Text × Value),
      (∀ e ∈ known, Option.Rel e.2 (held fields e.1) (held fields' e.1)) →
      (check (.map (keyed fields')) (keyed fields')).bare = (check (.map (keyed fields)) (keyed fields)).bare) :
    Indifferent (Shape.record record check) (SameMembers known) := by
  intro v v' h
  cases h with
  | refl => rfl
  | object h => exact hc _ _ h

theorem indifferent_eq (check : Value → Checked α) : Indifferent check Eq := by
  rintro v _ rfl
  rfl

end Typings.Shape
