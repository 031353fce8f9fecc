/-
Lines: a declaration file as the list of its lines.

A class block is its header, one line for each member and the closing brace; the file puts the import statements and
an empty line before it. What is known of a file follows from its lines, since none of them has a line break.
- `splitAt_ofLines`: the pieces between line breaks are the lines again.
- `block_eq_ofLines`, `declarationFile_eq`: block and file as texts of lines; `declarationFile_eq_ok`: when there is one.
- `newline_not_mem_lines`: names and types without line breaks give lines without line breaks.
- `Plain`: names and types in which none of the marks stands that set the parts of a line apart.
-/
import Typings.Proofs.Declaration.References

namespace Typings

open Typings.TypeName

/-! ## Texts of lines -/

namespace Text

/-- lines one below the other, each with its line break -/
def ofLines (ls : List Text) : Text := ls.flatMap fun l => l ++ "\n"

theorem ofLines_append (ks ls : List Text) : ofLines (ks ++ ls) = ofLines ks ++ ofLines ls := List.flatMap_append

theorem ofLines_cons (l : Text) (ls : List Text) : ofLines (l :: ls) = l ++ CodePoint.ofChar '\n' :: ofLines ls := by
  simp [ofLines]

/-- lines before a text come before its pieces -/
theorem splitAt_ofLines_append {ls : List Text} (h : ∀ l ∈ ls, CodePoint.ofChar '\n' ∉ l) (t : Text) :
    splitAt '\n' (ofLines ls ++ t) = ls ++ splitAt '\n' t := by
  induction ls with
  | nil => rfl
  | cons l ls ih =>
    rw [ofLines_cons, List.append_assoc, List.cons_append, splitAt_append_sep,
      splitAt_of_not_mem (h l List.mem_cons_self), ih fun k hk => h k (List.mem_cons_of_mem l hk)]
    rfl

/-- **The lines of a text of lines** are those that it was put together from; nothing follows the last break. -/
theorem splitAt_ofLines {ls : List Text} (h : ∀ l ∈ ls, CodePoint.ofChar '\n' ∉ l) :
    splitAt '\n' (ofLines ls) = ls ++ [[]] := by
  have hsplit := splitAt_ofLines_append h []
  rwa [List.append_nil] at hsplit

theorem ofLines_inj {ks ls : List Text} (hk : ∀ k ∈ ks, CodePoint.ofChar '\n' ∉ k)
    (hl : ∀ l ∈ ls, CodePoint.ofChar '\n' ∉ l) (h : ofLines ks = ofLines ls) : ks = ls := by
  have hsplit := congrArg (splitAt '\n') h
  rw [splitAt_ofLines hk, splitAt_ofLines hl] at hsplit
  exact List.append_cancel_right hsplit

end Text

open Text (ofLines)

/-! ## Blocks and files -/

theorem ImportSet.render_eq_ofLines (s : ImportSet) : s.render = ofLines s.statements := rfl

namespace Descriptor

/-- the lines of a class block whose types are written as they are -/
def blockLines (d : Descriptor) : List Text :=
  classHeader d.name d.superClass :: (d.members.map fun m => "  " ++ m.render) ++ [("\x7d" : Text)]

theorem block_eq_ofLines (d : Descriptor) : d.block = ofLines d.blockLines := by
  have hmembers : d.members.flatMap Member.line = ofLines (d.members.map fun m => "  " ++ m.render) := by
    rw [ofLines, List.flatMap_map]
    rfl
  rw [blockLines, Text.ofLines_append, Text.ofLines_cons, ← hmembers, block, classBlock]
  simp [ofLines]

/-- the import statements, each once, in the order of first reference -/
def imports (d : Descriptor) : List Text := (d.references.filterMap statement?).eraseDups

/-- the lines of a declaration file -/
def fileLines (d : Descriptor) : List Text := d.imports ++ [] :: d.resolved.blockLines

/-- **A declaration file is its lines**, unless a reference dangles. -/
theorem declarationFile_eq (d : Descriptor) :
    d.declarationFile = (outcome d.references).map fun _ => ofLines d.fileLines := by
  rw [declarationFile, d.declaration_resolves, takeIn_eq]
  cases h : outcome d.references with
  | error e => rfl
  | ok u =>
    -- all references have been taken in
    have hwhole : d.references.takeWhile (fun n => !dangles n) = d.references :=
      List.takeWhile_eq_self_iff.2 fun n hn => by simp [outcome_eq_ok.1 h n hn]
    simp only [Except.map, hwhole, ImportSet.render_eq_ofLines, ImportSet.registerAll_empty, block_eq_ofLines]
    rw [fileLines, Text.ofLines_append, Text.ofLines_cons, imports]
    simp

/-- there is a file exactly if no reference dangles: its imports, an empty line and its block -/
theorem declarationFile_eq_ok {d : Descriptor} {text : Text} :
    d.declarationFile = .ok text ↔ (∀ name ∈ d.references, dangles name = false) ∧
      text = ofLines d.imports ++ CodePoint.ofChar '\n' :: d.resolved.block := by
  have hlines : ofLines d.fileLines = ofLines d.imports ++ CodePoint.ofChar '\n' :: d.resolved.block := by
    rw [fileLines, Text.ofLines_append, Text.ofLines_cons, List.nil_append, block_eq_ofLines]
  rw [declarationFile_eq, hlines]
  cases hok : outcome d.references with
  | error e =>
    refine iff_of_false (by simp [Except.map]) fun h => ?_
    have hnamed : outcome d.references = .ok () := outcome_eq_ok.2 h.1
    cases hok.symm.trans hnamed
  | ok u =>
    have hnamed := outcome_eq_ok.1 hok
    simp only [Except.map, Except.ok.injEq]
    exact ⟨fun h => ⟨hnamed, h.symm⟩, fun h => h.2.symm⟩

end Descriptor

/-! ## Names and types -/

def Parameter.texts (p : Parameter) : List Text := [p.name, p.type]

def Method.texts (m : Method) : List Text := m.name :: (m.params.flatMap Parameter.texts ++ [m.returnType])

def Field.texts (f : Field) : List Text := [f.name, f.type]

/-- all names and types of a descriptor -/
def Descriptor.texts (d : Descriptor) : List Text :=
  d.name :: (d.superClass.toList ++ (d.constructors.getD []).flatMap (fun c => c.params.flatMap Parameter.texts) ++
    d.methods.flatMap Method.texts ++ (d.fields.getD []).flatMap Field.texts)

section

variable {P : Text → Prop} {d : Descriptor}

/-- a property of all names and types, part by part -/
theorem Descriptor.forall_mem_texts :
    (∀ t ∈ d.texts, P t) ↔ P d.name ∧ (∀ t ∈ d.superClass, P t) ∧
      (∀ c ∈ d.constructors.getD [], ∀ p ∈ c.params, P p.name ∧ P p.type) ∧
      (∀ m ∈ d.methods, P m.name ∧ (∀ p ∈ m.params, P p.name ∧ P p.type) ∧ P m.returnType) ∧
      ∀ f ∈ d.fields.getD [], P f.name ∧ P f.type := by
  simp only [texts, Parameter.texts, Method.texts, Field.texts, List.forall_mem_cons, List.forall_mem_append,
    List.forall_mem_flatMap, Option.mem_toList, Option.mem_def, List.not_mem_nil, false_implies, implies_true, and_true,
    and_assoc]

/-- what short names and written types keep, a resolved descriptor keeps -/
theorem Descriptor.forall_mem_texts_resolved (hshort : ∀ t, P t → P (short t)) (hwritten : ∀ t, P t → P (written t))
    (h : ∀ t ∈ d.texts, P t) : ∀ t ∈ d.resolved.texts, P t := by
  have hparams {ps : List Parameter} (h : ∀ p ∈ ps, P p.name ∧ P p.type) :
      ∀ p ∈ ps.map Parameter.resolved, P p.name ∧ P p.type :=
    List.forall_mem_map.2 fun p hp => ⟨(h p hp).1, hwritten _ (h p hp).2⟩
  obtain ⟨hname, hparent, hconstructors, hmethods, hfields⟩ := forall_mem_texts.1 h
  refine forall_mem_texts.2 ⟨hshort _ hname, ?_, ?_, ?_, ?_⟩
  · intro t ht
    obtain ⟨parent, hp, rfl⟩ := Option.map_eq_some_iff.1 ht
    exact hwritten _ (hparent parent (Option.eq_some_of_filter_eq_some hp))
  · exact List.forall_mem_map.2 fun c hc => hparams (hconstructors c hc)
  · exact List.forall_mem_map.2 fun m hm =>
      ⟨(hmethods m hm).1, hparams (hmethods m hm).2.1, hwritten _ (hmethods m hm).2.2⟩
  · exact List.forall_mem_map.2 fun f hf => ⟨(hfields f hf).1, hwritten _ (hfields f hf).2⟩

/-- the names that a descriptor refers to are among its types -/
theorem Descriptor.mem_texts_of_reference {t : Text} (h : t ∈ d.references) : t ∈ d.texts := by
  obtain ⟨-, hparent, hconstructors, hmethods, hfields⟩ := forall_mem_texts.1 fun u (hu : u ∈ d.texts) => hu
  simp only [references, List.mem_append, List.mem_flatMap, List.mem_map, Option.mem_toList] at h
  rcases h with ((hp | ⟨c, hc, ht⟩) | ⟨m, hm, ht⟩) | ⟨f, hf, rfl⟩
  · exact hparent t (Option.eq_some_of_filter_eq_some hp)
  · obtain ⟨p, hp, rfl⟩ := List.mem_map.1 ht
    exact (hconstructors c hc p hp).2
  · rcases List.mem_cons.1 ht with rfl | ht
    · exact (hmethods m hm).2.2
    · obtain ⟨p, hp, rfl⟩ := List.mem_map.1 ht
      exact ((hmethods m hm).2.1 p hp).2
  · exact (hfields f hf).2

end

theorem short_suffix (t : Text) : short t <:+ t := by
  unfold TypeName.short
  cases hs : t.splitLast '.' with
  | none => exact List.suffix_refl t
  | some parts =>
    obtain ⟨package, last⟩ := parts
    rw [(Text.splitLast_eq_some hs).1]
    exact ⟨package ++ [CodePoint.ofChar '.'], by simp⟩

/-- what is written holds no code point that the name does not hold, unless it is in the word `string` -/
theorem mem_of_mem_written {t : Text} {c : CodePoint} (h : c ∈ written t) (hc : c ∉ ("string" : Text)) : c ∈ t := by
  rw [TypeName.written, spell_eq] at h
  split_ifs at h
  · exact absurd h hc
  · exact (short_suffix t).subset h

/-! ## No line breaks within a line -/

theorem shownParameters_cons (p : Parameter) (ps : List Parameter) :
    shownParameters (p :: ps) = p.shown ++ ps.flatMap fun q => (", " : Text) ++ q.shown := by
  induction ps generalizing p with
  | nil => simp [shownParameters, Text.join]
  | cons q ps ih =>
    have h := ih q
    simp only [shownParameters, Text.join, List.map_cons] at h ⊢
    rw [List.intercalate_cons_cons, h, List.flatMap_cons]
    simp only [List.append_assoc]

/-- what stands neither within a parameter nor between two does not stand in a parameter list -/
theorem not_mem_shownParameters {ps : List Parameter} {c : CodePoint} (h : ∀ p ∈ ps, c ∉ p.name ∧ c ∉ p.type)
    (hcolon : c ∉ (": " : Text)) (hcomma : c ∉ (", " : Text)) : c ∉ shownParameters ps := by
  have hshown : ∀ p ∈ ps, c ∉ p.shown := by
    intro p hp
    simp only [Parameter.shown, List.mem_append, not_or]
    exact ⟨⟨(h p hp).1, hcolon⟩, (h p hp).2⟩
  cases ps with
  | nil => exact List.not_mem_nil
  | cons p ps =>
    rw [shownParameters_cons, List.mem_append, List.mem_flatMap, not_or]
    refine ⟨hshown p List.mem_cons_self, ?_⟩
    rintro ⟨q, hq, hcq⟩
    rcases List.mem_append.1 hcq with hm | hm
    · exact hcomma hm
    · exact hshown q (List.mem_cons_of_mem p hq) hm

theorem newline_not_mem_shownParameters {ps : List Parameter}
    (h : ∀ p ∈ ps, CodePoint.ofChar '\n' ∉ p.name ∧ CodePoint.ofChar '\n' ∉ p.type) :
    CodePoint.ofChar '\n' ∉ shownParameters ps :=
  not_mem_shownParameters h (by decide) (by decide)

theorem newline_not_mem_staticMark (b : Bool) : CodePoint.ofChar '\n' ∉ staticMark b := by
  cases b <;> decide

theorem newline_not_mem_extendsClause {parent : Option Text} (hparent : ∀ t ∈ parent, CodePoint.ofChar '\n' ∉ t) :
    CodePoint.ofChar '\n' ∉ extendsClause parent := by
  cases parent with
  | none => exact List.not_mem_nil
  | some t => exact List.not_mem_append (by decide) (hparent t rfl)

theorem newline_not_mem_classHeader {name : Text} {parent : Option Text} (hname : CodePoint.ofChar '\n' ∉ name)
    (hparent : ∀ t ∈ parent, CodePoint.ofChar '\n' ∉ t) : CodePoint.ofChar '\n' ∉ classHeader name parent := by
  have hstart := List.not_mem_append (s := "export class ") (by decide) hname
  exact List.not_mem_append (List.not_mem_append hstart (newline_not_mem_extendsClause hparent)) (by decide)

namespace Descriptor

variable {d : Descriptor}

theorem newline_not_mem_members (h : ∀ t ∈ d.texts, CodePoint.ofChar '\n' ∉ t) :
    ∀ m ∈ d.members, CodePoint.ofChar '\n' ∉ m.render := by
  obtain ⟨-, -, hconstructors, hmethods, hfields⟩ := forall_mem_texts.1 h
  intro m hm
  simp only [members, List.mem_append, List.mem_map] at hm
  rcases hm with (⟨c, hc, rfl⟩ | ⟨l, hl, rfl⟩) | ⟨f, hf, rfl⟩
  · have hparams := newline_not_mem_shownParameters (hconstructors c hc)
    exact List.not_mem_append (List.not_mem_append (by decide) hparams) (by decide)
  · obtain ⟨hname, hps, htype⟩ := hmethods l hl
    have hparams := newline_not_mem_shownParameters hps
    have hstart := List.not_mem_append (newline_not_mem_staticMark l.isStatic) hname
    have hbrackets := List.not_mem_append (List.not_mem_append hstart (t := "(") (by decide)) hparams
    have htyped := List.not_mem_append (List.not_mem_append hbrackets (t := "): ") (by decide)) htype
    exact List.not_mem_append htyped (by decide)
  · obtain ⟨hname, htype⟩ := hfields f hf
    have hstart := List.not_mem_append (newline_not_mem_staticMark f.isStatic) hname
    exact List.not_mem_append (List.not_mem_append (List.not_mem_append hstart (by decide)) htype) (by decide)

/-- **Names and types without line breaks** give a class block without line breaks in its lines. -/
theorem newline_not_mem_blockLines (h : ∀ t ∈ d.texts, CodePoint.ofChar '\n' ∉ t) :
    ∀ l ∈ d.blockLines, CodePoint.ofChar '\n' ∉ l := by
  obtain ⟨hname, hparent, -⟩ := forall_mem_texts.1 h
  intro l hl
  simp only [blockLines, List.mem_append, List.mem_cons, List.mem_map, List.not_mem_nil, or_false] at hl
  rcases hl with (rfl | ⟨m, hm, rfl⟩) | rfl
  · exact newline_not_mem_classHeader hname hparent
  · rw [List.mem_append, not_or]
    exact ⟨by decide, newline_not_mem_members h m hm⟩
  · decide

theorem newline_not_mem_resolved (h : ∀ t ∈ d.texts, CodePoint.ofChar '\n' ∉ t) :
    ∀ t ∈ d.resolved.texts, CodePoint.ofChar '\n' ∉ t :=
  forall_mem_texts_resolved (fun t ht hm => ht ((short_suffix t).subset hm))
    (fun _ ht hm => ht (mem_of_mem_written hm (by decide))) h

/-- an import statement is a line that is not empty -/
theorem newline_not_mem_imports (h : ∀ t ∈ d.references, CodePoint.ofChar '\n' ∉ t) :
    ∀ l ∈ d.imports, l ≠ [] ∧ CodePoint.ofChar '\n' ∉ l := by
  intro l hl
  obtain ⟨name, hname, hl⟩ := List.mem_filterMap.1 (List.mem_eraseDups.1 hl)
  have hnewline := h name hname
  rw [statement?] at hl
  split at hl
  · cases hl
  · rename_i package short hs
    split_ifs at hl
    cases hl
    rw [(Text.splitLast_eq_some hs).1, List.mem_append, List.mem_cons] at hnewline
    push Not at hnewline
    refine ⟨List.append_ne_nil_of_right_ne_nil _ (by decide), ?_⟩
    have hbound := List.not_mem_append (s := "import \x7b ") (by decide) hnewline.2.2
    have hfrom := List.not_mem_append (List.not_mem_append hbound (t := " \x7d from '") (by decide)) hnewline.1
    exact List.not_mem_append hfrom (by decide)

/-- **Names and types without line breaks** give a file without line breaks in its lines. -/
theorem newline_not_mem_lines (h : ∀ t ∈ d.texts, CodePoint.ofChar '\n' ∉ t) :
    ∀ l ∈ d.fileLines, CodePoint.ofChar '\n' ∉ l := by
  intro l hl
  rcases List.mem_append.1 hl with hl | hl
  · exact (newline_not_mem_imports (fun t ht => h t (mem_texts_of_reference ht)) l hl).2
  · rcases List.mem_cons.1 hl with rfl | hl
    · exact List.not_mem_nil
    · exact newline_not_mem_blockLines (newline_not_mem_resolved h) l hl

end Descriptor

/-! ## Plain names

Blanks, brackets, commas, colons and semicolons set the parts of a line apart, line breaks the lines. Words of letters,
digits, `_` and `$`, with dots between them or without, have none of them. -/

/-- what sets the parts of a declaration apart -/
def marks : Text := "\n (),:;"

/-- no mark stands in a text -/
def Unmarked (t : Text) : Prop := ∀ c ∈ t, c ∉ marks

instance (t : Text) : Decidable (Unmarked t) := List.decidableBAll (· ∉ marks) t

/-- what words are made of: letters, digits, `_` and `$` -/
def isWordPart (c : CodePoint) : Bool := c.isLetter || c.isDigit || ("_$" : Text).contains c

/-- words with single dots between them -/
def Dotted (t : Text) : Prop := ∀ w ∈ Text.splitAt '.' t, w ≠ [] ∧ w.all isWordPart = true

instance (t : Text) : Decidable (Dotted t) := inferInstanceAs (Decidable (∀ w ∈ Text.splitAt '.' t, _))

theorem Dotted.unmarked {t : Text} (h : Dotted t) : Unmarked t := by
  intro c hc hm
  have hmarks : marks.all (fun c => !isWordPart c && c != CodePoint.ofChar '.') = true := by decide
  have hother := List.all_eq_true.1 hmarks c hm
  rw [← Text.join_splitAt (CodePoint.ofChar '.') t] at hc
  rcases Text.mem_join hc with hdot | ⟨w, hw, hcw⟩
  · simp [List.mem_singleton.1 hdot] at hother
  · simp [List.all_eq_true.1 (h w hw).2 c hcw] at hother

/-- no word is missing behind the last dot -/
theorem Dotted.not_dangles {t : Text} (h : Dotted t) : dangles t = false := by
  rw [Bool.eq_false_iff]
  intro hdangles
  obtain ⟨package, hsplit⟩ := dangles_iff.1 hdangles
  obtain ⟨pieces, hpieces⟩ := Text.splitAt_eq_append (CodePoint.ofChar '.') t
  have hlast : Text.lastPiece '.' t = [] := by
    rw [(Text.splitLast_eq_some hsplit).1]
    exact Text.lastPiece_of_append List.not_mem_nil package
  exact (h _ (by rw [hpieces]; simp)).1 hlast

@[mk_iff]
structure Parameter.Plain (p : Parameter) : Prop where
  name : Unmarked p.name
  type : Unmarked p.type

@[mk_iff]
structure Method.Plain (m : Method) : Prop where
  name : Unmarked m.name
  params : ∀ p ∈ m.params, p.Plain
  returnType : Unmarked m.returnType

@[mk_iff]
structure Field.Plain (f : Field) : Prop where
  name : Unmarked f.name
  type : Unmarked f.type

/-- no name and no type has a mark in it -/
@[mk_iff]
structure Descriptor.Plain (d : Descriptor) : Prop where
  name : Unmarked d.name
  superClass : ∀ t ∈ d.superClass, Unmarked t
  constructors : ∀ c ∈ d.constructors.getD [], ∀ p ∈ c.params, p.Plain
  methods : ∀ m ∈ d.methods, m.Plain
  fields : ∀ f ∈ d.fields.getD [], f.Plain

instance (p : Parameter) : Decidable p.Plain := decidable_of_iff _ p.plain_iff.symm

instance (m : Method) : Decidable m.Plain := decidable_of_iff _ m.plain_iff.symm

instance (f : Field) : Decidable f.Plain := decidable_of_iff _ f.plain_iff.symm

instance (d : Descriptor) : Decidable d.Plain := decidable_of_iff _ d.plain_iff.symm

theorem Unmarked.not_mem {t : Text} (h : Unmarked t) {c : CodePoint} (hc : c ∈ marks) : c ∉ t := fun hm => h c hm hc

/-! ## Resolved descriptors are plain again -/

theorem Unmarked.short {t : Text} (h : Unmarked t) : Unmarked (short t) := fun c hc => h c ((short_suffix t).subset hc)

theorem Unmarked.written {t : Text} (h : Unmarked t) : Unmarked (written t) := by
  have hstring : Unmarked "string" := by decide
  intro c hc hm
  exact h c (mem_of_mem_written hc fun hs => hstring c hs hm) hm

theorem Descriptor.plain_iff_texts {d : Descriptor} : d.Plain ↔ ∀ t ∈ d.texts, Unmarked t := by
  simp only [plain_iff, forall_mem_texts, Method.plain_iff, Field.plain_iff, Parameter.plain_iff]

theorem Descriptor.Plain.resolved {d : Descriptor} (h : d.Plain) : d.resolved.Plain :=
  plain_iff_texts.2 (forall_mem_texts_resolved (fun _ => Unmarked.short) (fun _ => Unmarked.written)
    (plain_iff_texts.1 h))

theorem Descriptor.Plain.newline {d : Descriptor} (h : d.Plain) : ∀ t ∈ d.texts, CodePoint.ofChar '\n' ∉ t :=
  fun t ht => (plain_iff_texts.1 h t ht).not_mem (by decide)

/-! ## Members whose parts can be told apart -/

/-- a parameter list that its closing bracket ends, on one line -/
structure Enclosed (params : Text) : Prop where
  bracket : CodePoint.ofChar ')' ∉ params
  newline : CodePoint.ofChar '\n' ∉ params

theorem enclosed_shownParameters {ps : List Parameter} (h : ∀ p ∈ ps, p.Plain) : Enclosed (shownParameters ps) := by
  have hmark {c : CodePoint} (hc : c ∈ marks) : ∀ p ∈ ps, c ∉ p.name ∧ c ∉ p.type := fun p hp =>
    ⟨(h p hp).name.not_mem hc, (h p hp).type.not_mem hc⟩
  exact ⟨not_mem_shownParameters (hmark (by decide)) (by decide) (by decide),
    newline_not_mem_shownParameters (hmark (by decide))⟩

/-- a member whose parts can be told apart -/
def Member.Plain : Member → Prop
  | .constructor params => Enclosed params
  | .method _ name params returnType => Unmarked name ∧ Enclosed params ∧ Unmarked returnType
  | .field _ name type => Unmarked name ∧ Unmarked type

theorem Descriptor.Plain.members {d : Descriptor} (h : d.Plain) : ∀ m ∈ d.members, m.Plain := by
  intro m hm
  simp only [Descriptor.members, List.mem_append, List.mem_map] at hm
  rcases hm with (⟨c, hc, rfl⟩ | ⟨l, hl, rfl⟩) | ⟨f, hf, rfl⟩
  · exact enclosed_shownParameters (h.constructors c hc)
  · exact ⟨(h.methods l hl).name, enclosed_shownParameters (h.methods l hl).params, (h.methods l hl).returnType⟩
  · exact ⟨(h.fields f hf).name, (h.fields f hf).type⟩

namespace Descriptor

theorem Plain.imports {d : Descriptor} (h : d.Plain) : ∀ l ∈ d.imports, l ≠ [] ∧ CodePoint.ofChar '\n' ∉ l :=
  newline_not_mem_imports fun t ht => h.newline t (mem_texts_of_reference ht)

theorem newline_not_mem_fileLines {d : Descriptor} (h : d.Plain) : ∀ l ∈ d.fileLines, CodePoint.ofChar '\n' ∉ l :=
  newline_not_mem_lines h.newline

end Descriptor

end Typings
