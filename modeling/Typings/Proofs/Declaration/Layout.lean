/-
Layout: a class block is one line for each member.

Between its header and its closing brace a block has the constructors, the methods and the fields of its descriptor, in
their order. Names and types stand there as they are: whatever marks they hold, nothing is escaped, left out or put in.
- `Constructor.line`, `Method.line`, `Field.line`, `Descriptor.header`: the lines, from the parts of a descriptor.
- `blockLines_resolved`: the block of the resolved descriptor has these lines.
- `declaration_lists`: a list that is absent is an empty one.
- `declaration_lines`: the block of a descriptor, split at line breaks.
-/
import Typings.Proofs.Declaration.Lines

namespace Typings

open Typings.TypeName

/-! ## Lines -/

/-- parameters as they stand between the brackets -/
def signature (ps : List Parameter) : Text := Text.join ", " (ps.map fun p => p.name ++ ": " ++ written p.type)

def Constructor.line (c : Constructor) : Text := "  " ++ ("constructor(" ++ signature c.params ++ ");")

def Method.line (m : Method) : Text :=
  "  " ++ (Text.only m.isStatic "static " ++ m.name ++ "(" ++ signature m.params ++ "): " ++ written m.returnType ++ ";")

def Field.line (f : Field) : Text :=
  "  " ++ (Text.only f.isStatic "static " ++ f.name ++ ": " ++ written f.type ++ ";")

namespace Descriptor

/-- the first line, which names the superclass if there is one -/
def header (d : Descriptor) : Text :=
  "export class " ++ d.shortName ++ (d.parent?.elim [] fun parent => " extends " ++ written parent : Text) ++ " \x7b"

/-- the lines of the members -/
def memberLines (d : Descriptor) : List Text :=
  (d.constructors.getD []).map Constructor.line ++ d.methods.map Method.line ++ (d.fields.getD []).map Field.line

end Descriptor

/-! ## The lines of a block -/

theorem shownParameters_resolved (ps : List Parameter) : shownParameters (ps.map Parameter.resolved) = signature ps := by
  rw [shownParameters, List.map_map, signature]
  rfl

theorem Constructor.render_resolved (c : Constructor) :
    c.resolved.member.render = "constructor(" ++ signature c.params ++ ");" := by
  rw [← shownParameters_resolved]
  rfl

theorem Method.render_resolved (m : Method) : m.resolved.member.render =
    Text.only m.isStatic "static " ++ m.name ++ "(" ++ signature m.params ++ "): " ++ written m.returnType ++ ";" := by
  rw [← shownParameters_resolved]
  rfl

theorem Field.render_resolved (f : Field) : f.resolved.member.render =
    Text.only f.isStatic "static " ++ f.name ++ ": " ++ written f.type ++ ";" := rfl

theorem Constructor.line_eq (c : Constructor) : ("  " : Text) ++ c.resolved.member.render = c.line :=
  congrArg (("  " : Text) ++ ·) c.render_resolved

theorem Method.line_eq (m : Method) : ("  " : Text) ++ m.resolved.member.render = m.line :=
  congrArg (("  " : Text) ++ ·) m.render_resolved

theorem Field.line_eq (f : Field) : ("  " : Text) ++ f.resolved.member.render = f.line :=
  congrArg (("  " : Text) ++ ·) f.render_resolved

namespace Descriptor

theorem classHeader_resolved (d : Descriptor) : classHeader d.resolved.name d.resolved.superClass = d.header := by
  have hclause : extendsClause d.resolved.superClass =
      (d.parent?.elim [] fun parent => " extends " ++ written parent : Text) := by
    change extendsClause (d.parent?.map written) = _
    cases d.parent? <;> rfl
  exact congrArg (fun clause => ("export class " : Text) ++ d.shortName ++ clause ++ " \x7b") hclause

/-- **The block of a resolved descriptor** has a line for each member, between its header and its closing brace. -/
theorem blockLines_resolved (d : Descriptor) : d.resolved.blockLines = d.header :: d.memberLines ++ [("\x7d" : Text)] := by
  have hmembers : d.resolved.members.map (fun m => ("  " : Text) ++ m.render) = d.memberLines := by
    simp only [members, resolved, Option.getD_some, List.map_append, List.map_map, memberLines, Function.comp_def,
      Constructor.line_eq, Method.line_eq, Field.line_eq]
  rw [blockLines, classHeader_resolved, hmembers]

theorem length_memberLines (d : Descriptor) : d.memberLines.length =
    (d.constructors.getD []).length + d.methods.length + (d.fields.getD []).length := by
  simp [memberLines, Nat.add_assoc]

/-- a header has its clause exactly if there is a superclass with a name -/
theorem header_extends_iff (d : Descriptor) :
    (∃ parent, d.header = "export class " ++ d.shortName ++ (" extends " ++ parent) ++ " \x7b") ↔
      ∃ name, d.superClass = some name ∧ name ≠ [] := by
  have hclause (parent : Text) : d.header = "export class " ++ d.shortName ++ (" extends " ++ parent) ++ " \x7b" ↔
      (d.parent?.elim [] fun name => " extends " ++ written name : Text) = " extends " ++ parent :=
    ⟨fun h => List.append_cancel_left (List.append_cancel_right h), fun h =>
      congrArg (fun clause => ("export class " : Text) ++ d.shortName ++ clause ++ " \x7b") h⟩
  simp only [hclause, ← parent?_eq_some]
  cases d.parent? with
  | none =>
    have hnone (parent : Text) : ¬ ([] : Text) = " extends " ++ parent := fun h =>
      List.append_ne_nil_of_left_ne_nil (by decide) parent h.symm
    simp only [Option.elim_none, hnone, exists_false, reduceCtorEq]
  | some name => exact iff_of_true ⟨written name, rfl⟩ ⟨name, rfl⟩

/-! ## Declarations -/

/-- a declaration does not fail if no reference dangles -/
theorem declaration_of_named {d : Descriptor} (h : ∀ name ∈ d.references, dangles name = false) (s : ImportSet) :
    (d.declaration.run s).1 = .ok d.resolved.block := by
  have hok : outcome d.references = .ok () := outcome_eq_ok.2 h
  rw [d.declaration_resolves s, takeIn_eq, hok]
  rfl

/-- a list that is absent is an empty one -/
theorem declaration_lists (d : Descriptor) {constructors : Option (List Constructor)} {fields : Option (List Field)}
    (hconstructors : constructors.getD [] = d.constructors.getD []) (hfields : fields.getD [] = d.fields.getD []) :
    ({ d with constructors := constructors, fields := fields } : Descriptor).declaration = d.declaration := by
  unfold declaration
  rw [hconstructors, hfields]
  rfl

/-- **One line for each member.** Where no name and no type has a line break in it and no reference dangles, there is a
block. Its pieces between line breaks are its header, the lines of the constructors, of the methods and of the fields,
the closing brace, and nothing behind the last break; absent lists and empty ones give the same. The header has a clause
for the superclass exactly if that has a name. -/
theorem declaration_lines {d : Descriptor} (hlines : ∀ t ∈ d.texts, CodePoint.ofChar '\n' ∉ t)
    (hnamed : ∀ name ∈ d.references, dangles name = false) (s : ImportSet) :
    (∃ block, (d.declaration.run s).1 = .ok block ∧
      Text.splitAt '\n' block = d.header :: ((d.constructors.getD []).map Constructor.line ++
        d.methods.map Method.line ++ (d.fields.getD []).map Field.line) ++ [("\x7d" : Text), []] ∧
      (Text.splitAt '\n' block).length =
        3 + ((d.constructors.getD []).length + d.methods.length + (d.fields.getD []).length)) ∧
    ((∃ parent, d.header = "export class " ++ d.shortName ++ (" extends " ++ parent) ++ " \x7b") ↔
      ∃ name, d.superClass = some name ∧ name ≠ []) ∧
    ∀ constructors fields, constructors.getD [] = d.constructors.getD [] → fields.getD [] = d.fields.getD [] →
      ({ d with constructors := constructors, fields := fields } : Descriptor).declaration.run s =
        d.declaration.run s := by
  have hsplit : Text.splitAt '\n' d.resolved.block = d.header :: d.memberLines ++ [("\x7d" : Text), []] := by
    rw [block_eq_ofLines, Text.splitAt_ofLines (newline_not_mem_blockLines (newline_not_mem_resolved hlines)),
      blockLines_resolved, List.append_assoc]
    rfl
  refine ⟨⟨d.resolved.block, declaration_of_named hnamed s, hsplit, ?_⟩, d.header_extends_iff, ?_⟩
  · rw [hsplit, ← length_memberLines, List.length_append, List.length_cons]
    change d.memberLines.length + 1 + 2 = _
    omega
  · intro constructors fields hconstructors hfields
    rw [d.declaration_lists hconstructors hfields]

/-- names and types that look like the layout itself, or like what other formats would escape -/
theorem declaration_lines_marked :
    let m : Method := ⟨"a<b", [⟨"y", "java.lang.String"⟩, ⟨"x", "\x7b% if \"&\" %\x7d"⟩], "zoo.\x7d\x7d", true⟩
    let d : Descriptor := ⟨"zoo.\x7b\x7b Dog", some "zoo.'Animal", some [⟨[]⟩], [m, ⟨"", [], "void", false⟩], none⟩
    (∀ t ∈ d.texts, CodePoint.ofChar '\n' ∉ t) ∧ (∀ name ∈ d.references, dangles name = false) ∧
      ∃ block, (d.declaration.run ImportSet.empty).1 = .ok block ∧ Text.splitAt '\n' block =
        ([("export class \x7b\x7b Dog extends 'Animal \x7b" : Text), "  constructor();",
          "  static a<b(y: string, x: \x7b% if \"&\" %\x7d): \x7d\x7d;", "  (): void;", "\x7d", []] : List Text) := by
  intro m d
  have hlines : ∀ t ∈ d.texts, CodePoint.ofChar '\n' ∉ t := by decide
  have hnamed : ∀ name ∈ d.references, dangles name = false := by decide
  obtain ⟨⟨block, hblock, hsplit, -⟩, -⟩ := declaration_lines hlines hnamed ImportSet.empty
  refine ⟨hlines, hnamed, block, hblock, ?_⟩
  rw [hsplit]
  decide

end Descriptor

end Typings
