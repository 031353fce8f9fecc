/-
Acceptance: when a check gives a result, and which.

Checks are put together in a few ways, and there is one equation for each of them. A record is then accepted exactly
when each of its parts is, by rewriting.
- `list_eq_ok`: a list is accepted item by item, whatever their positions.
- `required_eq_ok`, `withDefault_found_eq_ok`: the parts of a record, under either of two spellings.
- `onlyKeys_eq_ok`: a record that knows all its keys.
-/
import Mathlib.Tactic
import Typings.Shape.Check

namespace Typings.Shape

namespace Checked

variable {α β : Type}

theorem map_eq_ok {f : α → β} {x : Checked α} {b : β} : map f x = .ok b ↔ ∃ a, x = .ok a ∧ f a = b := by
  cases x <;> simp [map]

theorem both_eq_ok {f : Checked (α → β)} {x : Checked α} {b : β} :
    both f x = .ok b ↔ ∃ g a, f = .ok g ∧ x = .ok a ∧ g a = b := by
  cases f <;> cases x <;> simp [both]

theorem fmap_eq_ok {f : α → β} {x : Checked α} {b : β} : f <$> x = .ok b ↔ ∃ a, x = .ok a ∧ f a = b :=
  map_eq_ok

theorem seq_eq_ok {f : Checked (α → β)} {x : Checked α} {b : β} :
    f <*> x = .ok b ↔ ∃ g a, f = .ok g ∧ x = .ok a ∧ g a = b :=
  both_eq_ok

theorem thenCheck_eq_ok {first : Checked Unit} {second : Checked α} {a : α} :
    thenCheck first second = .ok a ↔ first = .ok () ∧ second = .ok a := by
  cases first <;> simp [thenCheck]

theorem inside_eq_ok {step : Text} {x : Checked α} {a : α} : inside step x = .ok a ↔ x = .ok a := by
  cases x <;> simp [inside]

theorem all_eq_ok {cs : List (Checked α)} {as : List α} :
    all cs = .ok as ↔ List.Forall₂ (fun c a => c = .ok a) cs as := by
  induction cs generalizing as with
  | nil => simp [all, eq_comm]
  | cons c cs ih =>
    rw [all, both_eq_ok]
    constructor
    · rintro ⟨g, rest, hg, hrest, rfl⟩
      obtain ⟨a, ha, rfl⟩ := map_eq_ok.1 hg
      exact .cons ha (ih.1 hrest)
    · intro h
      cases h with
      | cons ha hrest => exact ⟨_, _, map_eq_ok.2 ⟨_, ha, rfl⟩, ih.2 hrest, rfl⟩

/-- where all checks find issues, they give a result together only if there are none of them -/
theorem nil_of_all {cs : List (Checked α)} (hbad : ∀ c ∈ cs, ∃ issues, c = .bad issues) {as : List α}
    (h : all cs = .ok as) : cs = [] := by
  cases cs with
  | nil => rfl
  | cons c cs =>
    obtain ⟨g, rest, hg, -, -⟩ := both_eq_ok.1 h
    obtain ⟨a, ha, -⟩ := map_eq_ok.1 hg
    obtain ⟨issues, hc⟩ := hbad c List.mem_cons_self
    rw [ha] at hc
    cases hc

end Checked

open Checked

variable {α : Type} {entries : List (Value × Value)}

/-! ## Lists and texts -/

theorem list_eq_ok {check : Value → Checked α} {v : Value} {as : List α} :
    list check v = .ok as ↔
      ∃ items, items? v.seen = some items ∧ List.Forall₂ (fun item a => check item = .ok a) items as := by
  -- the steps of the places do not matter, but they change along the list
  have hitems : ∀ (step : Nat → Text) (items : List Value) (as : List α),
      all (items.mapIdx fun i item => inside (step i) (check item)) = .ok as ↔
        List.Forall₂ (fun item a => check item = .ok a) items as := by
    intro step items
    induction items generalizing step with
    | nil => simp [all, eq_comm]
    | cons item items ih =>
      intro as
      rw [all_eq_ok, List.mapIdx_cons]
      cases as with
      | nil => simp
      | cons a as => rw [List.forall₂_cons, List.forall₂_cons, inside_eq_ok, ← all_eq_ok, ih fun i => step (i + 1)]
  unfold list
  cases items? v.seen with
  | none => simp [issue]
  | some items => simp [hitems]

theorem optional_eq_ok {check : Value → Checked α} {v : Value} {o : Option α} :
    optional check v = .ok o ↔ (v = .null ∧ o = none) ∨ (v ≠ .null ∧ ∃ a, check v = .ok a ∧ o = some a) := by
  cases v <;> simp [optional, map_eq_ok, eq_comm]

/-! ## Parts and keys -/

theorem record_eq_ok {name : Text} {check : Value → List (Value × Value) → Checked α} {v : Value} {a : α} :
    record name check v = .ok a ↔ ∃ entries, entries? v.seen = some entries ∧ check v entries = .ok a := by
  unfold record
  cases entries? v.seen <;> simp [issue]

/-- the value of a part: the one under its other spelling, or else the one under its name -/
def found? (entries : List (Value × Value)) (name : Text) : Option Text → Option Value
  | some other => (Value.get? other entries).or (Value.get? name entries)
  | none => Value.get? name entries

theorem part?_eq (name : Text) (other : Option Text) :
    (part? entries name other).map Prod.snd = found? entries name other := by
  unfold part? found?
  cases other with
  | none => simp [Function.comp_def]
  | some a => cases h : Value.get? a entries <;> simp [h, Function.comp_def]

theorem required_eq_ok {v : Value} {name : Text} {other : Option Text} {check : Value → Checked α} {a : α} :
    required v entries name other check = .ok a ↔ ∃ w, found? entries name other = some w ∧ check w = .ok a := by
  rw [← part?_eq]
  unfold required
  cases part? entries name other with
  | none => simp [issue, inside]
  | some found => simp [inside_eq_ok]

/-- a part that may be left out, as it is accepted: checked if it is there, the default otherwise -/
def Accepts (check : Value → Checked α) (default : α) : Option Value → α → Prop
  | some v, a => check v = .ok a
  | none, a => a = default

theorem withDefault_found_eq_ok {name : Text} {other : Option Text} {default : α} {check : Value → Checked α} {a : α} :
    withDefault entries name other default check = .ok a ↔ Accepts check default (found? entries name other) a := by
  rw [← part?_eq]
  unfold withDefault
  cases part? entries name other with
  | none => simp [Accepts, eq_comm]
  | some found => simp [Accepts, inside_eq_ok]

theorem withDefault_eq_ok {name : Text} {default : α} {check : Value → Checked α} {a : α} :
    withDefault entries name none default check = .ok a ↔ Accepts check default (Value.get? name entries) a :=
  withDefault_found_eq_ok

/-- whether a key is one of some texts -/
def IsAmong (known : List Text) (key : Value) : Prop := ∃ t ∈ known, key = .text t

theorem onlyKeys_eq_ok {known : List Text} :
    onlyKeys known entries = .ok () ↔ ∀ e ∈ entries, IsAmong known e.1 := by
  unfold onlyKeys
  rw [map_eq_ok]
  constructor
  · rintro ⟨units, hall, -⟩ ⟨key, v⟩ he
    have hnone := nil_of_all (fun c hc => ?_) hall
    · have hkey := List.filter_eq_nil_iff.1 (List.map_eq_nil_iff.1 hnone) _ he
      cases key <;> simp_all [IsAmong]
    · obtain ⟨e, -, rfl⟩ := List.mem_map.1 hc
      exact ⟨_, rfl⟩
  · intro h
    refine ⟨[], ?_, rfl⟩
    rw [List.filter_eq_nil_iff.2]
    · rfl
    · intro e he
      obtain ⟨t, ht, hkey⟩ := h e he
      simp [hkey, ht]

/-- keys that are among some texts with octets can be read -/
theorem readable_of_among {known : List Text} (hk : ∀ t ∈ known, Utf8.isEncodable t = true)
    (h : ∀ e ∈ entries, IsAmong known e.1) : readable entries = .ok () := by
  unfold readable
  rw [List.find?_eq_none.2]
  intro e he
  obtain ⟨t, ht, hkey⟩ := h e he
  simp [hkey, hk t ht]

end Typings.Shape
