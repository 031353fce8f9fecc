/-
Decisions: which JSON values checks accept.

A check decides a relation if it accepts of the JSON values exactly those that are related to a result. What is said of
an object is said member by member: a member is what it holds under a key.
- `bool_eq_ok`, `textMap_eq_ok`: the truth values and the texts under texts that JSON values stand for.
- `decides_list`, `decides_record`: lists and records of what is decided are decided.
- `required_decides`, `optional_decides`, `flag_decides`: so are the members of records.
-/
import Typings.Proofs.Shape.Acceptance
import Typings.Proofs.Text.Octets
import Typings.Proofs.Value.Entries

namespace Typings

open Shape Checked Value

/-! ## JSON values -/

/-- the values that are no containers in JSON -/
inductive IsJsonLeaf : Value → Prop
  | null : IsJsonLeaf .null
  | bool (b : Bool) : IsJsonLeaf (.bool b)
  | int (n : Int) : IsJsonLeaf (.int n)
  | float (x : Binary64) : IsJsonLeaf (.float x)
  | text (t : Text) : IsJsonLeaf (.text t)

/-- the values that JSON texts hold: leaves, lists, and objects whose keys are distinct texts -/
abbrev IsJson : Value → Prop := Composed (fun _ => True) IsJsonLeaf

section

variable {α : Type} {v w : Value} {fields : List (Text × Value)} {key other : Text}

theorem IsJson.seen (h : IsJson v) : v.seen = v := by
  cases h with
  | leaf h => cases h <;> rfl
  | list => rfl
  | map => rfl

theorem IsJson.entries? (h : IsJson v) {entries : List (Value × Value)} : entries? v.seen = some entries ↔
    ∃ fields, entries = keyed fields ∧ v = .map (keyed fields) := by
  rw [h.seen]
  cases h with
  | leaf h => cases h <;> simp [Shape.entries?]
  | list => simp [Shape.entries?]
  | @map fields =>
    simp only [Shape.entries?, Option.some.injEq, Value.map.injEq]
    constructor
    · rintro rfl
      exact ⟨fields, rfl, rfl⟩
    · rintro ⟨_, rfl, h⟩
      exact h

/-- the member of an object under a key -/
def held (fields : List (Text × Value)) (key : Text) : Option Value := fields.lookup key

theorem get?_held : Value.get? key (keyed fields) = held fields key := get?_keyed key fields

/-- the member under the first of two spellings that is there -/
def spelled (fields : List (Text × Value)) (name other : Text) : Option Value :=
  (held fields name).or (held fields other)

/-- entries under texts are known by what they are as entries of a mapping -/
theorem keyed_injective : Function.Injective keyed := by
  refine List.map_injective_iff.2 fun e e' h => ?_
  simp only [Prod.mk.injEq, Value.text.injEq] at h
  exact Prod.ext h.1 h.2

theorem IsJson.distinct (h : IsJson (.map (keyed fields))) : (fields.map Prod.fst).Nodup := by
  generalize hv : Value.map (keyed fields) = v at h
  cases h with
  | leaf h => cases h <;> cases hv
  | list => cases hv
  | map _ hd _ =>
    rw [keyed_injective (Value.map.inj hv)]
    exact hd

theorem IsJson.members (h : IsJson (.map (keyed fields))) : ∀ e ∈ fields, IsJson e.2 := by
  generalize hv : Value.map (keyed fields) = v at h
  cases h with
  | leaf h => cases h <;> cases hv
  | list => cases hv
  | map _ _ hm =>
    rw [keyed_injective (Value.map.inj hv)]
    exact hm

theorem IsJson.held (h : IsJson (.map (keyed fields))) (hw : held fields key = some w) : IsJson w := by
  obtain ⟨front, rest, hfields, -⟩ := List.lookup_eq_some_iff.1 hw
  exact h.members (key, w) (by simp [hfields])

theorem IsJson.spelled (h : IsJson (.map (keyed fields))) (hw : spelled fields key other = some w) : IsJson w := by
  rcases Option.or_eq_some_iff.1 hw with hw | ⟨-, hw⟩
  · exact h.held hw
  · exact h.held hw

theorem IsJson.item {items : List Value} (h : IsJson (.list items)) : ∀ v ∈ items, IsJson v := by
  generalize hv : Value.list items = v at h
  cases h with
  | leaf h => cases h <;> cases hv
  | map => cases hv
  | list h =>
    rw [Value.list.inj hv]
    exact h

end

/-! ## Single values -/

/-- the values that stand for truth values: these themselves, the numbers one and zero, and some words in any case -/
inductive IsTruth : Value → Bool → Prop
  | bool (b : Bool) : IsTruth (.bool b) b
  | int (b : Bool) : IsTruth (.int b.toInt) b
  | float {x : Binary64} {b : Bool} (h : x.toInt? = some b.toInt) : IsTruth (.float x) b
  | word {t : Text} {b : Bool} (h : truths.lookup (Text.toLower t) = some b) : IsTruth (.text t) b

namespace Shape

variable {v : Value} {t : Text} {b : Bool} {n : Int}

theorem text_eq_ok (h : IsJson v) : text v = .ok t ↔ v = .text t := by
  cases h with
  | leaf h => cases h <;> simp [text, issue]
  | list => simp [text, issue]
  | map => simp [text, issue]

theorem boolOfInt_eq_ok : boolOfInt v n = .ok b ↔ n = b.toInt := by
  unfold boolOfInt
  split_ifs <;> cases b <;> simp_all [issue]

/-- a word for a truth value has octets -/
theorem isEncodable_of_truth (h : truths.lookup (Text.toLower t) = some b) : Utf8.isEncodable t = true := by
  have hwords : ∀ e ∈ truths, Utf8.isEncodable e.1 = true := by decide
  obtain ⟨front, rest, htruths, -⟩ := List.lookup_eq_some_iff.1 h
  rw [← Utf8.isEncodable_toLower]
  exact hwords (Text.toLower t, b) (by simp [htruths])

/-- **A truth value** is accepted as what it stands for. -/
theorem bool_eq_ok (h : IsJson v) : bool v = .ok b ↔ IsTruth v b := by
  have hsmall : ∀ b : Bool, isWord b.toInt = true ∧ -wordBound < b.toInt ∧ b.toInt < wordBound := by decide
  cases h with
  | list => exact ⟨by simp [bool, issue], fun h => by cases h⟩
  | map => exact ⟨by simp [bool, issue], fun h => by cases h⟩
  | leaf h =>
    cases h with
    | null => exact ⟨by simp [bool, issue], fun h => by cases h⟩
    | bool d =>
      constructor
      · intro hd
        obtain rfl : d = b := by simpa [bool] using hd
        exact .bool d
      · rintro ⟨⟩
        rfl
    | int n =>
      constructor
      · intro hn
        simp only [bool] at hn
        split_ifs at hn
        · rw [boolOfInt_eq_ok.1 hn]
          exact .int b
        · cases hn
      · rintro ⟨⟩
        simp only [bool, (hsmall b).1, if_true]
        exact boolOfInt_eq_ok.2 rfl
    | float x =>
      constructor
      · intro hx
        simp only [bool] at hx
        split at hx
        · rename_i n hn
          split_ifs at hx
          · exact .float (hn.trans (congrArg some (boolOfInt_eq_ok.1 hx)))
          · cases hx
        · cases hx
      · rintro (_ | _ | hx | _)
        simp only [bool, hx, (hsmall b).2, and_self, if_true]
        exact boolOfInt_eq_ok.2 rfl
    | text t =>
      constructor
      · intro ht
        simp only [bool, boolOfWord] at ht
        split_ifs at ht
        · split at ht
          · rename_i d hd
            obtain rfl : d = b := by simpa using ht
            exact .word hd
          · cases ht
        · cases ht
      · rintro (_ | _ | _ | ht)
        simp only [bool, isEncodable_of_truth ht, if_true, boolOfWord, ht]

/-! ## Parameters -/

/-- texts under distinct texts are put in as they stand -/
theorem foldl_insertText {done more : List (Text × Text)} (h : ((done ++ more).map Prod.fst).Nodup) :
    more.foldl insertText done = done ++ more := by
  induction more generalizing done with
  | nil => simp
  | cons e more ih =>
    have hnew : done.any (fun d => d.1 == e.1) = false := by
      rw [List.map_append, List.map_cons, List.nodup_middle] at h
      rw [List.any_eq_false]
      intro d hd hsame
      refine (List.nodup_cons.1 h).1 (List.mem_append_left _ ?_)
      rw [← beq_iff_eq.1 hsame]
      exact List.mem_map_of_mem hd
    rw [List.foldl_cons, insertText, hnew, if_neg Bool.false_ne_true, ih (by simpa using h), List.append_assoc,
      List.singleton_append]

/-- texts under texts, as an object holds them -/
def textual (es : List (Text × Text)) : List (Text × Value) := es.map fun e => (e.1, .text e.2)

theorem fst_textual (es : List (Text × Text)) : (textual es).map Prod.fst = es.map Prod.fst := by
  simp [textual]

/-- what is checked of an entry of texts -/
theorem entry_eq_ok {e : Text × Value} {p : Text × Text} {k : Text} (h : IsJson e.2) :
    both (Checked.map Prod.mk (inside k (inside keyStep (text (.text e.1))))) (inside k (text e.2)) = .ok p ↔
      e = (p.1, .text p.2) := by
  simp only [both_eq_ok, map_eq_ok, inside_eq_ok, text_eq_ok h]
  constructor
  · rintro ⟨_, _, ⟨_, hk, rfl⟩, hw, rfl⟩
    obtain rfl : e.1 = _ := by simpa [text] using hk
    rw [← hw]
  · intro he
    obtain rfl : e = (p.1, .text p.2) := he
    exact ⟨_, _, ⟨_, rfl, rfl⟩, rfl, rfl⟩

theorem entries_eq_ok {fields : List (Text × Value)} (h : ∀ e ∈ fields, IsJson e.2) {raw : List (Text × Text)} :
    all ((keyed fields).map fun (k, w) =>
        both (Checked.map Prod.mk (inside (step k) (inside keyStep (text k)))) (inside (step k) (text w))) = .ok raw ↔
      fields = textual raw := by
  rw [all_eq_ok, keyed, List.map_map, List.forall₂_map_left_iff]
  induction fields generalizing raw with
  | nil => cases raw <;> simp [textual]
  | cons e fields ih =>
    obtain ⟨he, hfields⟩ := List.forall_mem_cons.1 h
    cases raw with
    | nil => simp [textual]
    | cons p raw =>
      rw [List.forall₂_cons, ih hfields]
      simp only [Function.comp_apply, entry_eq_ok he, textual, List.map_cons, List.cons.injEq]

/-- **Texts under texts** are accepted as they stand. -/
theorem textMap_eq_ok (h : IsJson v) {es : List (Text × Text)} :
    textMap v = .ok es ↔ v = .map (keyed (textual es)) := by
  have hmade : ∀ {fields : List (Text × Value)}, v = .map (keyed fields) →
      (textMap v = .ok es ↔ ∃ raw, fields = textual raw ∧ raw.foldl insertText [] = es) := by
    rintro fields rfl
    have hjson : ∀ e ∈ fields, IsJson e.2 := h.members
    simp only [textMap, Value.seen, Shape.entries?, map_eq_ok, entries_eq_ok hjson]
  have hplain : ∀ {fields : List (Text × Value)}, v = .map (keyed fields) → ∀ raw, fields = textual raw →
      raw.foldl insertText [] = raw := by
    rintro fields rfl raw rfl
    have hdistinct := h.distinct
    rw [fst_textual] at hdistinct
    exact @foldl_insertText [] raw hdistinct
  constructor
  · intro ht
    cases hentries : Shape.entries? v.seen with
    | none => simp [textMap, hentries, issue] at ht
    | some entries =>
      obtain ⟨fields, -, hv⟩ := h.entries?.1 hentries
      obtain ⟨raw, hraw, hfold⟩ := (hmade hv).1 ht
      rw [hplain hv raw hraw] at hfold
      rw [hv, hraw, hfold]
  · intro hv
    exact (hmade hv).2 ⟨es, rfl, hplain hv es rfl⟩

/-! ## Lists and members -/

variable {α : Type} {check : Value → Checked α} {R : Value → α → Prop} {a : α} {as : List α} {o : Option α}
  {fields : List (Text × Value)} {w : Value} {name other : Text}

/-- a list of values, one for each of some things -/
def IsListOf (R : Value → α → Prop) (v : Value) (as : List α) : Prop :=
  ∃ items, v = .list items ∧ List.Forall₂ R items as

/-- a member that may be absent or null -/
inductive Optionally (R : Value → α → Prop) : Option Value → Option α → Prop
  | absent : Optionally R none none
  | null : Optionally R (some .null) none
  | present {v : Value} {a : α} (h : R v a) : Optionally R (some v) (some a)

/-- a truth value that is false if it is absent -/
inductive Flagged : Option Value → Bool → Prop
  | absent : Flagged none false
  | present {v : Value} {b : Bool} (h : IsTruth v b) : Flagged (some v) b

/-- a check that accepts of the JSON values exactly those of a relation -/
def Decides (check : Value → Checked α) (R : Value → α → Prop) : Prop :=
  ∀ v a, IsJson v → (check v = .ok a ↔ R v a)

theorem decides_list (hc : Decides check R) : Decides (list check) (IsListOf R) := by
  intro v as h
  have hitems : ∀ {items}, items? v.seen = some items ↔ v = .list items := by
    intro items
    rw [h.seen]
    cases h with
    | leaf h => cases h <;> simp [items?]
    | list => simp [items?]
    | map => simp [items?]
  have hall : ∀ items : List Value, (∀ w ∈ items, IsJson w) → ∀ as,
      (List.Forall₂ (fun item a => check item = .ok a) items as ↔ List.Forall₂ R items as) := by
    intro items hjson as
    induction items generalizing as with
    | nil => cases as <;> simp
    | cons w items ih =>
      obtain ⟨hw, hmore⟩ := List.forall_mem_cons.1 hjson
      cases as with
      | nil => simp
      | cons a as => rw [List.forall₂_cons, List.forall₂_cons, hc w a hw, ih hmore]
  rw [list_eq_ok]
  constructor
  · rintro ⟨items, hi, hr⟩
    obtain rfl := hitems.1 hi
    exact ⟨items, rfl, (hall items h.item as).1 hr⟩
  · rintro ⟨items, rfl, hr⟩
    exact ⟨items, hitems.2 rfl, (hall items h.item as).2 hr⟩

theorem decides_text : Decides text fun v t => v = .text t := fun _ _ h => text_eq_ok h

theorem decides_record {record : Text} {check : Value → List (Value × Value) → Checked α}
    {Members : List (Text × Value) → α → Prop}
    (hc : ∀ fields a, IsJson (.map (keyed fields)) →
      (check (.map (keyed fields)) (keyed fields) = .ok a ↔ Members fields a)) :
    Decides (Shape.record record check) fun v a => ∃ fields, v = .map (keyed fields) ∧ Members fields a := by
  intro v a h
  rw [record_eq_ok]
  constructor
  · rintro ⟨entries, he, hok⟩
    obtain ⟨fields, rfl, rfl⟩ := h.entries?.1 he
    exact ⟨fields, rfl, (hc fields a h).1 hok⟩
  · rintro ⟨fields, rfl, hm⟩
    exact ⟨keyed fields, h.entries?.2 ⟨fields, rfl, rfl⟩, (hc fields a h).2 hm⟩

theorem found?_keyed : found? (keyed fields) name none = held fields name := get?_held

theorem found?_spelled : found? (keyed fields) name (some other) = spelled fields other name := by
  rw [found?, get?_held, get?_held, spelled]

/-- a required member is accepted if its value is -/
theorem required_decides (hc : Decides check R) {m : Option Value} (hm : ∀ w, m = some w → IsJson w) :
    (∃ w, m = some w ∧ check w = .ok a) ↔ ∃ w, m = some w ∧ R w a := by
  constructor
  · rintro ⟨w, hw, hok⟩
    exact ⟨w, hw, (hc w a (hm w hw)).1 hok⟩
  · rintro ⟨w, hw, hr⟩
    exact ⟨w, hw, (hc w a (hm w hw)).2 hr⟩

/-- a member that may be absent or null is accepted if its value is -/
theorem optional_decides (hc : Decides check R) (hnull : ∀ a, ¬ R .null a) {m : Option Value}
    (hm : ∀ w, m = some w → IsJson w) : Accepts (optional check) none m o ↔ Optionally R m o := by
  cases m with
  | none =>
    constructor
    · rintro rfl
      exact .absent
    · rintro ⟨⟩
      rfl
  | some w =>
    simp only [Accepts, optional_eq_ok]
    constructor
    · rintro (⟨rfl, rfl⟩ | ⟨-, a, hok, rfl⟩)
      · exact .null
      · exact .present ((hc w a (hm w rfl)).1 hok)
    · rintro (_ | _ | hr)
      · exact Or.inl ⟨rfl, rfl⟩
      · refine Or.inr ⟨?_, _, (hc w _ (hm w rfl)).2 hr, rfl⟩
        rintro rfl
        exact hnull _ hr

/-- a truth value that may be absent is accepted if it stands for one -/
theorem flag_decides {m : Option Value} (hm : ∀ w, m = some w → IsJson w) :
    Accepts bool false m b ↔ Flagged m b := by
  cases m with
  | none =>
    constructor
    · rintro rfl
      exact .absent
    · rintro ⟨⟩
      rfl
  | some w =>
    simp only [Accepts, bool_eq_ok (hm w rfl)]
    constructor
    · exact .present
    · rintro (_ | h)
      exact h

end Shape

end Typings
