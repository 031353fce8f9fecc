/-
Acceptance of descriptors: which JSON values are descriptors, and what they describe.

What a value describes is said without the checks.
- `Constructor.decides`, `Method.decides`, `Field.decides`: the parts of a descriptor.
- `Descriptor.decides`: a descriptor is accepted exactly where it is described.
- `Descriptor.indifferent`: keys that are not asked for, and the order of those that are, have no effect.
- `Descriptor.ofValue_accepts`: both, of the whole function, and how it fails.
-/
import Typings.Descriptor.Shape
import Typings.Proofs.Shape.Indifference

namespace Typings

open Shape Checked Value

/-! ## Descriptors -/

section

variable {v : Value} {fields : List (Text × Value)}

/-- parameters as an object holds them: types under names, in their order -/
def Parameter.Described (v : Value) (ps : List Parameter) : Prop :=
  v = .map (keyed (ps.map fun p => (p.name, .text p.type)))

/-- a constructor as an object holds it -/
def Constructor.Described (v : Value) (c : Constructor) : Prop :=
  ∃ fields, v = .map (keyed fields) ∧ ∃ w, held fields "params" = some w ∧ Parameter.Described w c.params

/-- a method as the members of an object -/
structure Method.Members (fields : List (Text × Value)) (m : Method) : Prop where
  name : held fields "name" = some (.text m.name)
  params : ∃ w, held fields "params" = some w ∧ Parameter.Described w m.params
  returnType : spelled fields "returnType" "return_type" = some (.text m.returnType)
  isStatic : Flagged (spelled fields "isStatic" "is_static") m.isStatic

def Method.Described (v : Value) (m : Method) : Prop :=
  ∃ fields, v = .map (keyed fields) ∧ Method.Members fields m

/-- a field as the members of an object -/
structure Field.Members (fields : List (Text × Value)) (f : Field) : Prop where
  name : held fields "name" = some (.text f.name)
  type : held fields "type" = some (.text f.type)
  isStatic : Flagged (spelled fields "isStatic" "is_static") f.isStatic

def Field.Described (v : Value) (f : Field) : Prop :=
  ∃ fields, v = .map (keyed fields) ∧ Field.Members fields f

/-- a descriptor as the members of an object -/
structure Descriptor.Members (fields : List (Text × Value)) (d : Descriptor) : Prop where
  name : held fields "name" = some (.text d.name)
  superClass : Optionally (fun v t => v = .text t) (spelled fields "superClass" "super_class") d.superClass
  constructors : Optionally (IsListOf Constructor.Described) (held fields "constructors") d.constructors
  methods : ∃ w, held fields "methods" = some w ∧ IsListOf Method.Described w d.methods
  fields : Optionally (IsListOf Field.Described) (held fields "fields") d.fields

def Descriptor.Described (v : Value) (d : Descriptor) : Prop :=
  ∃ fields, v = .map (keyed fields) ∧ Descriptor.Members fields d

theorem Parameter.decides : Decides Parameter.check Parameter.Described := by
  intro v ps h
  rw [Parameter.check, map_eq_ok]
  constructor
  · rintro ⟨es, hes, rfl⟩
    rw [textMap_eq_ok h] at hes
    rw [hes, Parameter.Described, Parameter.ofEntries, List.map_map]
    rfl
  · intro hv
    refine ⟨ps.map fun p => (p.name, p.type), ?_, ?_⟩
    · rw [textMap_eq_ok h, hv, textual, List.map_map]
      rfl
    · rw [Parameter.ofEntries, List.map_map]
      exact List.map_id ps

theorem Constructor.decides : Decides Constructor.check Constructor.Described := by
  refine decides_record fun fields c h => ?_
  simp only [fmap_eq_ok, required_eq_ok, found?_keyed, required_decides Parameter.decides fun _ => h.held]
  constructor
  · rintro ⟨ps, hps, rfl⟩
    exact hps
  · intro hps
    exact ⟨c.params, hps, rfl⟩

/-- a text that must be there is accepted if it is -/
theorem required_text {m : Option Value} {t : Text} (hm : ∀ w, m = some w → IsJson w) :
    (∃ w, m = some w ∧ text w = .ok t) ↔ m = some (.text t) := by
  rw [required_decides decides_text hm]
  simp

theorem Method.decides : Decides Method.check Method.Described := by
  refine decides_record fun fields m h => ?_
  simp only [seq_eq_ok, fmap_eq_ok, required_eq_ok, withDefault_found_eq_ok, found?_keyed, found?_spelled,
    required_decides Parameter.decides fun _ => h.held, required_text fun _ => h.held,
    required_text fun _ => h.spelled, flag_decides fun _ => h.spelled]
  constructor
  · rintro ⟨_, _, ⟨_, _, ⟨_, _, ⟨_, hname, rfl⟩, hparams, rfl⟩, htype, rfl⟩, hstatic, rfl⟩
    exact ⟨hname, hparams, htype, hstatic⟩
  · rintro ⟨hname, hparams, htype, hstatic⟩
    exact ⟨_, _, ⟨_, _, ⟨_, _, ⟨_, hname, rfl⟩, hparams, rfl⟩, htype, rfl⟩, hstatic, rfl⟩

theorem Field.decides : Decides Field.check Field.Described := by
  refine decides_record fun fields f h => ?_
  simp only [seq_eq_ok, fmap_eq_ok, required_eq_ok, withDefault_found_eq_ok, found?_keyed, found?_spelled,
    required_text fun _ => h.held, flag_decides fun _ => h.spelled]
  constructor
  · rintro ⟨_, _, ⟨_, _, ⟨_, hname, rfl⟩, htype, rfl⟩, hstatic, rfl⟩
    exact ⟨hname, htype, hstatic⟩
  · rintro ⟨hname, htype, hstatic⟩
    exact ⟨_, _, ⟨_, _, ⟨_, hname, rfl⟩, htype, rfl⟩, hstatic, rfl⟩

theorem not_null_isListOf {α : Type} {R : Value → α → Prop} (as : List α) : ¬ IsListOf R .null as := by
  rintro ⟨items, h, -⟩
  cases h

/-- **A descriptor** is accepted exactly where it is described. -/
theorem Descriptor.decides : Decides Descriptor.check Descriptor.Described := by
  refine decides_record fun fields d h => ?_
  have htext : ∀ t : Text, ¬ (Value.null = .text t) := by simp
  simp only [seq_eq_ok, fmap_eq_ok, required_eq_ok, withDefault_found_eq_ok, found?_keyed, found?_spelled,
    required_text fun _ => h.held, optional_decides decides_text htext fun _ => h.spelled,
    optional_decides (decides_list Constructor.decides) not_null_isListOf fun _ => h.held,
    optional_decides (decides_list Field.decides) not_null_isListOf fun _ => h.held,
    required_decides (decides_list Method.decides) fun _ => h.held]
  constructor
  · rintro ⟨_, _, ⟨_, _, ⟨_, _, ⟨_, _, ⟨_, hname, rfl⟩, hsuper, rfl⟩, hconstructors, rfl⟩, hmethods, rfl⟩, hfields, rfl⟩
    exact ⟨hname, hsuper, hconstructors, hmethods, hfields⟩
  · rintro ⟨hname, hsuper, hconstructors, hmethods, hfields⟩
    exact ⟨_, _, ⟨_, _, ⟨_, _, ⟨_, _, ⟨_, hname, rfl⟩, hsuper, rfl⟩, hconstructors, rfl⟩, hmethods, rfl⟩, hfields, rfl⟩

/-! ## What has no effect -/

/-- values that differ at most in what constructors do not ask for: other members, and the order of members -/
abbrev Constructor.Same : Value → Value → Prop := SameMembers [("params", Eq)]

abbrev Method.Same : Value → Value → Prop :=
  SameMembers [("name", Eq), ("params", Eq), ("returnType", Eq), ("return_type", Eq), ("isStatic", Eq),
    ("is_static", Eq)]

abbrev Field.Same : Value → Value → Prop :=
  SameMembers [("name", Eq), ("type", Eq), ("isStatic", Eq), ("is_static", Eq)]

/-- values that differ at most in what descriptors do not ask for, at any level -/
abbrev Descriptor.Same : Value → Value → Prop :=
  SameMembers [("name", Eq), ("superClass", Eq), ("super_class", Eq), ("constructors", SameItems Constructor.Same),
    ("methods", SameItems Method.Same), ("fields", SameItems Field.Same)]

theorem Constructor.indifferent : Indifferent Constructor.check Constructor.Same := by
  refine indifferent_record fun fields fields' h => ?_
  simp only [List.forall_mem_cons] at h
  obtain ⟨hparams, -⟩ := h
  rw [bare_fmap, bare_fmap, bare_required (indifferent_eq _) (samePart hparams)]

theorem Method.indifferent : Indifferent Method.check Method.Same := by
  refine indifferent_record fun fields fields' h => ?_
  simp only [List.forall_mem_cons] at h
  obtain ⟨hname, hparams, htype, htype', hstatic, hstatic', -⟩ := h
  simp only [bare_seq, bare_fmap]
  rw [bare_required (indifferent_eq _) (samePart hname), bare_required (indifferent_eq _) (samePart hparams),
    bare_required (indifferent_eq _) (samePart_spelled htype' htype),
    bare_withDefault (indifferent_eq _) (samePart_spelled hstatic' hstatic)]

theorem Field.indifferent : Indifferent Field.check Field.Same := by
  refine indifferent_record fun fields fields' h => ?_
  simp only [List.forall_mem_cons] at h
  obtain ⟨hname, htype, hstatic, hstatic', -⟩ := h
  simp only [bare_seq, bare_fmap]
  rw [bare_required (indifferent_eq _) (samePart hname), bare_required (indifferent_eq _) (samePart htype),
    bare_withDefault (indifferent_eq _) (samePart_spelled hstatic' hstatic)]

/-- lists stay what they are where their items change -/
theorem SameItems.null_left {R : Value → Value → Prop} {v : Value} (h : SameItems R .null v) : v = .null := by
  cases h
  rfl

theorem SameItems.null_right {R : Value → Value → Prop} {v : Value} (h : SameItems R v .null) : v = .null := by
  cases h
  rfl

/-- **A descriptor** is checked alike where only that changes that it does not ask for. -/
theorem Descriptor.indifferent : Indifferent Descriptor.check Descriptor.Same := by
  refine indifferent_record fun fields fields' h => ?_
  have hoptional : ∀ {α : Type} {check : Value → Checked α} {R : Value → Value → Prop}, Indifferent check R →
      Indifferent (optional (list check)) (SameItems R) := fun hc =>
    indifferent_optional (indifferent_list hc) (fun _ => SameItems.null_left) fun _ => SameItems.null_right
  simp only [List.forall_mem_cons] at h
  obtain ⟨hname, hsuper, hsuper', hconstructors, hmethods, hfields, -⟩ := h
  simp only [bare_seq, bare_fmap]
  rw [bare_required (indifferent_eq _) (samePart hname),
    bare_withDefault (indifferent_eq _) (samePart_spelled hsuper' hsuper),
    bare_withDefault (hoptional Constructor.indifferent) (samePart hconstructors),
    bare_required (indifferent_list Method.indifferent) (samePart hmethods),
    bare_withDefault (hoptional Field.indifferent) (samePart hfields)]

/-! ## The whole function -/

namespace Descriptor

/-- the descriptor that a JSON value holds is the one it describes -/
theorem ofValue_eq_ok (h : IsJson v) (path : Option Path) (d : Descriptor) :
    ofValue path v = .ok d ↔ Described v d := by
  rw [← Descriptor.decides v d h]
  unfold ofValue
  cases hentries : Shape.entries? v.seen with
  | none => simp [check, record, hentries, issue]
  | some entries => cases hc : check v <;> simp

theorem ofValue_same {w : Value} (h : Same v w) (path : Option Path) : ofValue path w = ofValue path v := by
  have hbare := Descriptor.indifferent v w h
  cases h with
  | refl => rfl
  | object =>
    simp only [ofValue, Value.seen, Shape.entries?]
    generalize check (.map (keyed _)) = x at hbare ⊢
    generalize check (.map (keyed _)) = y at hbare ⊢
    cases x with
    | ok d =>
      cases y with
      | ok e =>
        obtain rfl : d = e := by simpa [bare] using hbare
        rfl
      | bad => cases hbare
    | bad issues =>
      cases y with
      | ok => cases hbare
      | bad issues' =>
        have hissues : issues.map Issue.bare = issues'.map Issue.bare := by simpa [bare] using hbare
        have hsummary : summary issues = summary issues' := by rw [← summary_bare issues, hissues, summary_bare]
        simp only [hsummary]

/-- a value is refused in one way: as a descriptor with a wrong form, and with the path it comes from -/
theorem ofValue_fails {path : Option Path} {f : Failure} (h : ofValue path v = .error f) :
    ∃ message, f = Failure.of (.descriptor path) message := by
  unfold ofValue at h
  split at h
  · cases h
    exact ⟨_, rfl⟩
  · split at h
    · cases h
    · cases h
      exact ⟨_, rfl⟩

theorem ofValue_refuses (h : IsJson v) (path : Option Path) (hv : ∀ d, ¬ Described v d) :
    ∃ message, ofValue path v = .error (Failure.of (.descriptor path) message) := by
  cases he : ofValue path v with
  | ok d => exact absurd ((ofValue_eq_ok h path d).1 he) (hv d)
  | error f =>
    obtain ⟨message, rfl⟩ := ofValue_fails he
    exact ⟨message, rfl⟩

/-- **Descriptors in JSON.** A JSON value is accepted exactly where it describes a descriptor, which is then the result:
it is an object of the right members, with the lists and the parameters in their order, and of a member with two
spellings the first that is there. Any other value is refused as a descriptor of a wrong form, with the path it comes
from. All other members and the order of members have no effect at any level, neither on the result nor on what is said
of a value that is not accepted. -/
theorem ofValue_accepts (h : IsJson v) (path : Option Path) :
    (∀ d, ofValue path v = .ok d ↔ Described v d) ∧
      ((∀ d, ¬ Described v d) → ∃ message, ofValue path v = .error (Failure.of (.descriptor path) message)) ∧
      ∀ w, Same v w → ofValue path w = ofValue path v :=
  ⟨fun d => ofValue_eq_ok h path d, ofValue_refuses h path, fun _ hw => ofValue_same hw path⟩

/-- a class with both spellings of what it extends, null for constructors, no fields and a static method, and the same
in another order and with more members; and a class without methods, which is refused -/
theorem ofValue_accepts_two :
    let params : Value := .map (keyed [("b", .text "int"), ("a", .text "x.A")])
    let v : Value := .map (keyed [("name", .text "x.B"), ("superClass", .null), ("super_class", .text "x.C"),
      ("constructors", .null), ("fields", .list []), ("methods", .list [.map (keyed [("name", .text "m"),
        ("params", params), ("return_type", .text "void"), ("isStatic", .text "YES")])])])
    let w : Value := .map (keyed [("note", .int 1), ("methods", .list [.map (keyed [("isStatic", .text "YES"),
      ("throws", .list []), ("return_type", .text "void"), ("params", params), ("name", .text "m")])]),
      ("fields", .list []), ("constructors", .null), ("super_class", .text "x.C"), ("superClass", .null),
      ("name", .text "x.B")])
    let d : Descriptor := ⟨"x.B", none, none, [⟨"m", [⟨"b", "int"⟩, ⟨"a", "x.A"⟩], "void", true⟩], some []⟩
    let bad : Value := .map (keyed [("name", .text "x.B")])
    let path : Option Path := some (Path.ofText "x/B.json")
    IsJson v ∧ ofValue none v = .ok d ∧ Described v d ∧ Same v w ∧ ofValue none w = ofValue none v ∧
      IsJson bad ∧ (∀ d, ¬ Described bad d) ∧
      ∃ message, ofValue path bad = .error (Failure.of (.descriptor path) message) := by
  intro params v w d bad path
  have hparams : IsJson params := by
    refine .map (fun _ _ => trivial) (by decide) ?_
    simp only [List.forall_mem_cons, List.not_mem_nil, false_implies, implies_true, and_true]
    exact ⟨.leaf (.text _), .leaf (.text _)⟩
  have hmethod : IsJson (.map (keyed [("name", .text "m"), ("params", params), ("return_type", .text "void"),
      ("isStatic", .text "YES")])) := by
    refine .map (fun _ _ => trivial) (by decide) ?_
    simp only [List.forall_mem_cons, List.not_mem_nil, false_implies, implies_true, and_true]
    exact ⟨.leaf (.text _), hparams, .leaf (.text _), .leaf (.text _)⟩
  have hv : IsJson v := by
    refine .map (fun _ _ => trivial) (by decide) ?_
    simp only [List.forall_mem_cons, List.not_mem_nil, false_implies, implies_true, and_true]
    exact ⟨.leaf (.text _), .leaf .null, .leaf (.text _), .leaf .null, .list (by simp), .list (by simpa using hmethod)⟩
  have hsame : Same v w := by
    refine .object ?_
    simp only [List.forall_mem_cons, List.not_mem_nil, false_implies, implies_true, and_true]
    refine ⟨.some rfl, .some rfl, .some rfl, .some (.refl _), .some (.list (.cons (.object ?_) .nil)),
      .some (.refl _)⟩
    simp only [List.forall_mem_cons, List.not_mem_nil, false_implies, implies_true, and_true]
    exact ⟨.some rfl, .some rfl, .none, .some rfl, .some rfl, .none⟩
  have hd : ofValue none v = .ok d := by decide +kernel
  have hbad : IsJson bad := by
    refine .map (fun _ _ => trivial) (by decide) ?_
    simp only [List.forall_mem_cons, List.not_mem_nil, false_implies, implies_true, and_true]
    exact .leaf (.text _)
  have hnone : ∀ d, ¬ Described bad d := by
    rintro d ⟨fields, hfields, hmembers⟩
    obtain ⟨methods, hm, -⟩ := hmembers.methods
    rw [← keyed_injective (Value.map.inj hfields)] at hm
    cases hm
  obtain ⟨haccepts, -, hindifferent⟩ := ofValue_accepts hv none
  exact ⟨hv, hd, (haccepts d).1 hd, hsame, hindifferent w hsame, hbad, hnone, (ofValue_accepts hbad path).2.1 hnone⟩

end Descriptor

end

end Typings
