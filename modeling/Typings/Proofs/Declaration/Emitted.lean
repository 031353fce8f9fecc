/-
Emitted names: what a declaration file calls its class, its superclass and the types of its members.

Every name in a file is a part behind a last dot, so no dot stands in it. That it is not empty is another matter. A
reference that ends with its dot is rejected, but the class itself is shortened without a look at what is left, and an
empty type is taken for a bare name that stands for itself.
- `short_eq_nil_iff`: a name has nothing to emit if it is empty or ends with a dot.
- `emitted_resolved`: the names of a file, from those of the descriptor.
- `emitted_proper_iff`: the descriptors whose names are proper or which are rejected.
- `nameless_emitted`: the price. Files without a name for their class or for a type.
-/
import Typings.Descriptor.Shape
import Typings.Proofs.Declaration.Lines
import Typings.Proofs.Value.Entries

namespace Typings

open Typings.TypeName

/-! ## Short names -/

namespace TypeName

theorem short_eq_lastPiece (name : Text) : short name = Text.lastPiece '.' name := by
  unfold short Text.lastPiece
  cases name.splitLast '.' <;> rfl

theorem dot_not_mem_short (name : Text) : CodePoint.ofChar '.' ∉ short name := by
  rw [short_eq_lastPiece]
  exact Text.not_mem_lastPiece name

theorem dot_not_mem_spell {short : Text} (h : CodePoint.ofChar '.' ∉ short) : CodePoint.ofChar '.' ∉ spell short := by
  rw [spell_eq]
  split_ifs
  · decide
  · exact h

theorem dot_not_mem_written (name : Text) : CodePoint.ofChar '.' ∉ written name :=
  dot_not_mem_spell (dot_not_mem_short name)

theorem written_eq_nil_iff {name : Text} : written name = [] ↔ short name = [] := by
  rw [written, spell_eq]
  split_ifs with h
  · rw [h]
    decide
  · rfl

/-- **A name has nothing to emit** if it is empty or ends with a dot. -/
theorem short_eq_nil_iff {name : Text} : short name = [] ↔ name = [] ∨ dangles name = true := by
  rw [dangles_iff, short_eq_lastPiece]
  cases h : name.splitLast '.' with
  | none =>
    rw [Text.lastPiece_of_not_mem (Text.splitLast_eq_none h)]
    simp
  | some parts =>
    obtain ⟨package, last⟩ := parts
    have hname : name ≠ [] := by
      rw [(Text.splitLast_eq_some h).1]
      simp
    simp [Text.lastPiece, h, hname]

end TypeName

/-! ## The names of a file -/

namespace Descriptor

/-- the types that stand behind a colon -/
def memberTypes (d : Descriptor) : List Text :=
  (d.constructors.getD []).flatMap Constructor.references ++ d.methods.flatMap Method.references ++
    (d.fields.getD []).map Field.type

/-- the names in the block of a descriptor whose types are written as they are: of the class, of what it extends, and
behind each colon -/
def emitted (d : Descriptor) : List Text := d.name :: (d.superClass.toList ++ d.memberTypes)

theorem references_eq (d : Descriptor) : d.references = d.parent?.toList ++ d.memberTypes := by
  simp only [references, memberTypes, List.append_assoc]

theorem memberTypes_resolved (d : Descriptor) : d.resolved.memberTypes = d.memberTypes.map written := by
  have hconstructor (c : Constructor) : c.resolved.references = c.references.map written := by
    simp only [Constructor.references, Constructor.resolved, List.map_map]
    rfl
  have hmethod (m : Method) : m.resolved.references = m.references.map written := by
    simp only [Method.references, Method.resolved, List.map_map, List.map_cons]
    rfl
  simp only [memberTypes, resolved, Option.getD_some, List.map_append, List.map_flatMap, List.flatMap_map, List.map_map,
    hconstructor, hmethod]
  rfl

/-- **The names of a file** are the short name of the class and what is written for each reference. -/
theorem emitted_resolved (d : Descriptor) : d.resolved.emitted = short d.name :: d.references.map written := by
  have hparent : d.resolved.superClass.toList = d.parent?.toList.map written := by
    change (d.parent?.map written).toList = _
    cases d.parent? <;> rfl
  rw [emitted, memberTypes_resolved, hparent, ← List.map_append, ← references_eq]
  rfl

theorem nil_mem_references_iff (d : Descriptor) : [] ∈ d.references ↔ [] ∈ d.memberTypes := by
  have hparent : [] ∉ d.parent?.toList := by
    rw [Option.mem_toList, parent?_eq_some]
    simp
  simp [references_eq, hparent]

/-- a descriptor is rejected exactly if a reference dangles -/
theorem declarationFile_error_iff (d : Descriptor) :
    (∃ e, d.declarationFile = .error e) ↔ ∃ name ∈ d.references, dangles name = true := by
  constructor
  · rintro ⟨e, he⟩
    by_contra hd
    have hnamed : ∀ name ∈ d.references, dangles name = false := by simpa using hd
    rw [declarationFile_eq_ok.2 ⟨hnamed, rfl⟩] at he
    cases he
  · rintro ⟨name, hname, hd⟩
    cases h : d.declarationFile with
    | ok text => simp [(declarationFile_eq_ok.1 h).1 name hname] at hd
    | error e => exact ⟨e, rfl⟩

/-- where nothing is rejected, the names of a file are not empty if the class has a short name and no type is empty -/
theorem emitted_ne_nil_iff {d : Descriptor} (h : ∀ name ∈ d.references, dangles name = false) :
    (∀ name ∈ d.resolved.emitted, name ≠ []) ↔ short d.name ≠ [] ∧ [] ∉ d.memberTypes := by
  have hwritten : (∀ name ∈ d.references, written name ≠ []) ↔ [] ∉ d.references := by
    constructor
    · intro hne hempty
      exact hne [] hempty (by decide)
    · intro hempty name hname hnil
      rcases short_eq_nil_iff.1 (written_eq_nil_iff.1 hnil) with rfl | hd
      · exact hempty hname
      · simp [h name hname] at hd
  rw [emitted_resolved, List.forall_mem_cons, List.forall_mem_map, hwritten, nil_mem_references_iff]

/-- **Proper names.** A file consists of its imports and of a block in whose names no dot stands. That the names of a file
are not empty either, and that a descriptor with nothing to emit for its class or for a type is rejected, is true of
exactly those that are rejected for a reference that dangles, or whose class has a short name and none of whose types is
empty. -/
theorem emitted_proper_iff (d : Descriptor) :
    (∀ text, d.declarationFile = .ok text →
      text = Text.ofLines d.imports ++ CodePoint.ofChar '\n' :: d.resolved.block ∧
        ∀ name ∈ d.resolved.emitted, CodePoint.ofChar '.' ∉ name) ∧
    ((∃ e, d.declarationFile = .error e) ↔ ∃ name ∈ d.references, dangles name = true) ∧
    (((∀ text, d.declarationFile = .ok text → ∀ name ∈ d.resolved.emitted, name ≠ []) ∧
        (short d.name = [] ∨ (∃ name ∈ d.references, short name = []) → ∃ e, d.declarationFile = .error e)) ↔
      (∃ name ∈ d.references, dangles name = true) ∨ short d.name ≠ [] ∧ [] ∉ d.memberTypes) := by
  refine ⟨fun text h => ⟨(declarationFile_eq_ok.1 h).2, ?_⟩, d.declarationFile_error_iff, ?_⟩
  · rw [emitted_resolved, List.forall_mem_cons, List.forall_mem_map]
    exact ⟨dot_not_mem_short d.name, fun name _ => dot_not_mem_written name⟩
  · by_cases hd : ∃ name ∈ d.references, dangles name = true
    · obtain ⟨e, he⟩ := d.declarationFile_error_iff.2 hd
      exact iff_of_true ⟨by simp [he], fun _ => ⟨e, he⟩⟩ (Or.inl hd)
    · have hnamed : ∀ name ∈ d.references, dangles name = false := by simpa using hd
      constructor
      · rintro ⟨hnames, -⟩
        exact Or.inr ((emitted_ne_nil_iff hnamed).1 (hnames _ (declarationFile_eq_ok.2 ⟨hnamed, rfl⟩)))
      · rintro (h | ⟨hclass, htypes⟩)
        · exact absurd h hd
        · refine ⟨fun _ _ => (emitted_ne_nil_iff hnamed).2 ⟨hclass, htypes⟩, ?_⟩
          rintro (hnil | ⟨name, hname, hnil⟩)
          · exact absurd hnil hclass
          · rcases short_eq_nil_iff.1 hnil with rfl | hdangles
            · exact absurd (d.nil_mem_references_iff.1 hname) htypes
            · exact absurd ⟨name, hname, hdangles⟩ hd

/-- **A class and a type without a name** are accepted and written. A superclass of the same name is rejected. -/
theorem nameless_emitted :
    let v : Value := .map (Value.keyed [("name", .text "com.example."), ("methods", .list [])])
    let d : Descriptor := ⟨"com.example.", none, none, [], none⟩
    let field : Value := .map (Value.keyed [("name", .text "x"), ("type", .text "")])
    let w : Value := .map (Value.keyed [("name", .text "A"), ("methods", .list []), ("fields", .list [field])])
    let e : Descriptor := ⟨"A", none, none, [], some [⟨"x", "", false⟩]⟩
    ofValue none v = .ok d ∧ d.declarationFile = .ok "\nexport class  \x7b\n\x7d\n" ∧
      ofValue none w = .ok e ∧ e.declarationFile = .ok "\nexport class A \x7b\n  x: ;\n\x7d\n" ∧
      { e with superClass := some d.name }.declarationFile = .error ⟨"com.example."⟩ := by
  decide +kernel

end Descriptor

end Typings
