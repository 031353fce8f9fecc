/-
Entries of mappings under texts.

- `get?_insert_self`, `get?_insert_of_ne`: an entry that is put is found under its own key and under no other.
- `ofEntries_keyed`: entries under distinct texts are put in as they stand.
- `Composed`: the values that leaves, lists and mappings from distinct texts make.
-/
import Mathlib.Tactic
import Typings.Value

namespace Typings.Value

variable {entries : List (Value × Value)} {key other : Text} {v : Value}

theorem sameKey_text {a : Value} : a.sameKey (.text key) = true ↔ a = .text key := by
  cases a <;> simp [sameKey, number?]

/-! ## Putting entries -/

/-- an entry with another value under its key -/
def revalue (key v : Value) (e : Value × Value) : Value × Value := if e.1.sameKey key then (e.1, v) else e

theorem fst_revalue (key v : Value) (e : Value × Value) : (revalue key v e).1 = e.1 := by
  unfold revalue
  split_ifs <;> rfl

theorem insert_eq (entries : List (Value × Value)) (key v : Value) : insert entries key v =
    if entries.any fun e => e.1.sameKey key then entries.map (revalue key v) else entries ++ [(key, v)] := rfl

theorem get?_map_revalue (other v : Value) : get? key (entries.map (revalue other v)) =
    (entries.find? fun e => e.1.sameKey (.text key)).map fun e => (revalue other v e).2 := by
  have hkeys : ((fun e : Value × Value => e.1.sameKey (.text key)) ∘ revalue other v) =
      fun e => e.1.sameKey (.text key) := by
    funext e
    rw [Function.comp_apply, fst_revalue]
  rw [get?, find?, List.find?_map, hkeys, Option.map_map]
  rfl

theorem get?_insert_self : get? key (insert entries (.text key) v) = some v := by
  rw [insert_eq]
  split_ifs with h
  · obtain ⟨e, he, hkey⟩ := List.any_eq_true.1 h
    have hsome : (entries.find? fun e => e.1.sameKey (.text key)).isSome := List.find?_isSome.2 ⟨e, he, hkey⟩
    obtain ⟨d, hd⟩ := Option.isSome_iff_exists.1 hsome
    have hsame : d.1.sameKey (.text key) = true := by simpa using List.find?_some hd
    rw [get?_map_revalue, hd, Option.map_some, revalue, if_pos hsame]
  · have hnone : entries.find? (fun e => e.1.sameKey (.text key)) = none := by
      simpa [List.find?_eq_none] using h
    simp [get?, find?, List.find?_append, hnone, sameKey_text]

theorem get?_insert_of_ne (h : key ≠ other) : get? key (insert entries (.text other) v) = get? key entries := by
  -- an entry under the key is none under the other
  have hother : ∀ a : Value, a.sameKey (.text key) = true → a.sameKey (.text other) = false := by
    intro a ha
    rw [sameKey_text.1 ha]
    simpa [sameKey] using h
  rw [insert_eq]
  split_ifs
  · rw [get?_map_revalue, get?, find?]
    refine Option.map_congr fun e he => ?_
    have hsame : e.1.sameKey (.text key) = true := by simpa using List.find?_some he
    rw [revalue, hother _ hsame]
    rfl
  · have hkey : (Value.text other).sameKey (.text key) = false := by simpa [sameKey] using h.symm
    simp [get?, find?, List.find?_append, hkey]

/-- an entry that is put brings no key but its own -/
theorem forall_insert_iff {P : Value → Prop} (h : P (.text key)) :
    (∀ e ∈ insert entries (.text key) v, P e.1) ↔ ∀ e ∈ entries, P e.1 := by
  rw [insert_eq]
  split_ifs
  · simp only [List.forall_mem_map, fst_revalue]
  · simp only [List.forall_mem_append, List.forall_mem_singleton, h, and_true]

/-! ## Entries under texts -/

/-- entries under texts as entries of a mapping -/
def keyed (entries : List (Text × Value)) : List (Value × Value) := entries.map fun e => (.text e.1, e.2)

theorem get?_keyed (key : Text) (entries : List (Text × Value)) : get? key (keyed entries) = entries.lookup key := by
  induction entries with
  | nil => rfl
  | cons e entries ih =>
    obtain ⟨k, v⟩ := e
    have hrest : get? key (keyed ((k, v) :: entries)) = if k == key then some v else get? key (keyed entries) := by
      simp only [keyed, get?, find?, List.map_cons, List.find?_cons, sameKey]
      cases k == key <;> rfl
    rw [hrest, ih, List.lookup_cons]
    by_cases h : k = key
    · simp [h]
    · have hne : (key == k) = false := by simpa using Ne.symm h
      simp [h, hne]

/-- entries under further texts are put behind those that are there -/
theorem foldl_insert_keyed {done more : List (Text × Value)} (h : ((done ++ more).map Prod.fst).Nodup) :
    (keyed more).foldl (fun m e => insert m e.1 e.2) (keyed done) = keyed (done ++ more) := by
  induction more generalizing done with
  | nil => simp [keyed]
  | cons e more ih =>
    have hnew : (keyed done).any (fun d => d.1.sameKey (.text e.1)) = false := by
      rw [List.map_append, List.map_cons, List.nodup_middle] at h
      rw [List.any_eq_false, keyed, List.forall_mem_map]
      rintro d hd hsame
      rw [sameKey_text, Value.text.injEq] at hsame
      exact (List.nodup_cons.1 h).1 (hsame ▸ List.mem_append_left _ (List.mem_map_of_mem hd))
    have hput : insert (keyed done) (.text e.1) e.2 = keyed (done ++ [e]) := by
      rw [insert_eq, hnew, if_neg Bool.false_ne_true, keyed, keyed, List.map_append, List.map_singleton]
    have hmore : keyed (e :: more) = (.text e.1, e.2) :: keyed more := rfl
    rw [hmore, List.foldl_cons, hput, ih (by simpa using h), List.append_assoc, List.singleton_append]

/-- **Entries under distinct texts** are put in as they stand. -/
theorem ofEntries_keyed {entries : List (Text × Value)} (h : (entries.map Prod.fst).Nodup) :
    ofEntries (keyed entries) = keyed entries :=
  @foldl_insert_keyed [] entries h

/-! ## Composed values -/

/-- the values that leaves, lists and mappings from distinct words make -/
inductive Composed (word : Text → Prop) (leaf : Value → Prop) : Value → Prop
  | leaf {v : Value} (h : leaf v) : Composed word leaf v
  | list {items : List Value} (h : ∀ v ∈ items, Composed word leaf v) : Composed word leaf (.list items)
  | map {entries : List (Text × Value)} (hw : ∀ e ∈ entries, word e.1) (hd : (entries.map Prod.fst).Nodup)
      (h : ∀ e ∈ entries, Composed word leaf e.2) : Composed word leaf (.map (keyed entries))

theorem Composed.mono {word word' : Text → Prop} {leaf leaf' : Value → Prop} (hword : ∀ t, word t → word' t)
    (hleaf : ∀ v, leaf v → leaf' v) (h : Composed word leaf v) : Composed word' leaf' v := by
  induction h with
  | leaf h => exact .leaf (hleaf _ h)
  | list _ ih => exact .list ih
  | map hw hd _ ih => exact .map (fun e he => hword _ (hw e he)) hd ih

end Typings.Value
