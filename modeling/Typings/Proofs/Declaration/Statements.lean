/-
Statements: one import statement for each name that needs an import.

Statements are told apart by their texts alone. That is enough: the first apostrophe of a statement stands before the
module, so a statement without others tells what it binds and from where, and with that the whole name.
- `importStatement_inj`: a statement tells its parts.
- `statement?_inj`: names that leave the same statement are the same.
- `length_imports`: there are as many statements as there are different names that need one.
- `declarationFile_statements`: so many lines stand before the first empty line of a file.
-/
import Typings.Proofs.Declaration.Legible

namespace Typings

open Typings.TypeName

/-! ## Statements and names -/

/-- **A statement tells its parts**, unless an apostrophe stands in what it binds. -/
theorem importStatement_inj {a b m n : Text} (ha : CodePoint.ofChar '\'' ∉ a) (hb : CodePoint.ofChar '\'' ∉ b)
    (h : importStatement a m = importStatement b n) : a = b ∧ m = n := by
  have hbound {a : Text} (ha : CodePoint.ofChar '\'' ∉ a) :
      ∀ c ∈ a ++ (" \x7d from " : Text), ¬ c = CodePoint.ofChar '\'' := by
    rintro c hc rfl
    rcases List.mem_append.1 hc with hc | hc
    · exact ha hc
    · exact absurd hc (by decide)
  have hmodule (m : Text) : ∀ c ∈ (CodePoint.ofChar '\'' :: (m ++ "'")).head?, c = CodePoint.ofChar '\'' := by
    rintro c hc
    cases hc
    rfl
  have hsplit (a m : Text) : importStatement a m =
      "import \x7b " ++ (a ++ (" \x7d from " : Text) ++ CodePoint.ofChar '\'' :: (m ++ "'")) := by
    change ("import \x7b " : Text) ++ a ++ ((" \x7d from " : Text) ++ [CodePoint.ofChar '\'']) ++ m ++ ("'" : Text) = _
    simp only [List.append_assoc, List.cons_append, List.nil_append]
  rw [hsplit, hsplit] at h
  obtain ⟨hname, hrest⟩ := split_unique (hbound ha) (hbound hb) (hmodule m) (hmodule n) (List.append_cancel_left h)
  exact ⟨List.append_cancel_right hname, List.append_cancel_right (List.tail_eq_of_cons_eq hrest)⟩

namespace TypeName

/-- whether a name needs an import: a dotted one does whose short name is none of the plain ones -/
def needsImport (name : Text) : Bool := name.contains (CodePoint.ofChar '.') && !plainNames.contains (short name)

theorem needsImport_iff {name : Text} :
    needsImport name = true ↔ ∃ package last, name.splitLast '.' = some (package, last) ∧ last ∉ plainNames := by
  cases h : name.splitLast '.' with
  | none => simp [needsImport, Text.splitLast_eq_none h]
  | some parts =>
    obtain ⟨package, last⟩ := parts
    have hdot : CodePoint.ofChar '.' ∈ name := by
      rw [(Text.splitLast_eq_some h).1]
      simp
    simp [needsImport, hdot, short, h]

/-- a statement binds the short name of a name that needs an import from its package -/
theorem statement?_eq_some {name statement : Text} : statement? name = some statement ↔
    ∃ package last, name.splitLast '.' = some (package, last) ∧ last ∉ plainNames ∧
      importStatement last package = statement := by
  cases h : name.splitLast '.' with
  | none => simp [statement?, h]
  | some parts =>
    obtain ⟨package, last⟩ := parts
    simp [statement?, h]

theorem exists_statement_iff {name : Text} : (∃ statement, statement? name = some statement) ↔ needsImport name = true := by
  simp only [needsImport_iff, statement?_eq_some]
  constructor
  · rintro ⟨-, package, last, h, hlast, -⟩
    exact ⟨package, last, h, hlast⟩
  · rintro ⟨package, last, h, hlast⟩
    exact ⟨_, package, last, h, hlast, rfl⟩

/-- **A statement tells the name that left it**, unless an apostrophe stands in the name. -/
theorem statement?_inj {m n statement : Text} (hm : CodePoint.ofChar '\'' ∉ m) (hn : CodePoint.ofChar '\'' ∉ n)
    (h : statement? m = some statement) (h' : statement? n = some statement) : m = n := by
  obtain ⟨package, last, hsplit, -, hs⟩ := statement?_eq_some.1 h
  obtain ⟨package', last', hsplit', -, hs'⟩ := statement?_eq_some.1 h'
  have hname := (Text.splitLast_eq_some hsplit).1
  have hname' := (Text.splitLast_eq_some hsplit').1
  rw [hname, List.mem_append, List.mem_cons, not_or, not_or] at hm
  rw [hname', List.mem_append, List.mem_cons, not_or, not_or] at hn
  obtain ⟨hlast, hpackage⟩ := importStatement_inj hm.2.2 hn.2.2 (hs.trans hs'.symm)
  rw [hname, hname', hlast, hpackage]

/-- what a name leaves where nothing has been collected before -/
theorem resolve_leaves {name statement : Text} (hd : dangles name = false) (h : statement? name = some statement) :
    ((resolve name).run ImportSet.empty).2.statements = [statement] := by
  rw [resolve_run, hd, h]
  rfl

end TypeName

/-! ## Files -/

namespace Descriptor

variable {d : Descriptor}

theorem imports_nodup (d : Descriptor) : d.imports.Nodup := by
  rw [imports, ← ImportSet.registerAll_empty]
  exact ImportSet.nodup _

/-- **There are as many statements** as different references that need one. -/
theorem length_imports (h : ∀ name ∈ d.references, CodePoint.ofChar '\'' ∉ name) :
    d.imports.length = (d.references.filter needsImport).toFinset.card := by
  have hinj : Set.InjOn statement? (d.references.filter needsImport).toFinset := by
    intro m hm n hn hmn
    rw [Finset.mem_coe, List.mem_toFinset, List.mem_filter] at hm hn
    obtain ⟨statement, hs⟩ := exists_statement_iff.2 hm.2
    exact statement?_inj (h m hm.1) (h n hn.1) hs (hmn ▸ hs)
  have himage : (d.imports.map some).toFinset = (d.references.filter needsImport).toFinset.image statement? := by
    ext statement
    simp only [List.mem_toFinset, List.mem_map, Finset.mem_image, imports, List.mem_eraseDups, List.mem_filterMap,
      List.mem_filter, ← exists_statement_iff]
    constructor
    · rintro ⟨s, ⟨name, hname, hs⟩, rfl⟩
      exact ⟨name, ⟨hname, s, hs⟩, hs⟩
    · rintro ⟨name, ⟨hname, s, hs⟩, rfl⟩
      exact ⟨s, ⟨name, hname, hs⟩, hs.symm⟩
  have hnodup : (d.imports.map some).Nodup := d.imports_nodup.map (Option.some_injective Text)
  calc d.imports.length
      = (d.imports.map some).toFinset.card := by rw [List.toFinset_card_of_nodup hnodup, List.length_map]
    _ = (d.references.filter needsImport).toFinset.card := by rw [himage, Finset.card_image_of_injOn hinj]

/-- **One line for each name that needs an import.** Where no type has an apostrophe or a line break in it, the lines of
a file before its first empty one are as many as there are different references that are dotted and whose last part is
not one of the plain names, since two of these never leave the same statement. -/
theorem declarationFile_statements {text : Text} (h : d.declarationFile = .ok text)
    (hclean : ∀ name ∈ d.references, CodePoint.ofChar '\'' ∉ name ∧ CodePoint.ofChar '\n' ∉ name) :
    (∃ before after, Text.splitAt '\n' text = before ++ [] :: after ∧ [] ∉ before ∧
      before.length = (d.references.filter needsImport).toFinset.card) ∧
    ∀ m ∈ d.references, ∀ n ∈ d.references, needsImport m = true → needsImport n = true → m ≠ n →
      ∃ k l, ((resolve m).run ImportSet.empty).2.statements = [k] ∧
        ((resolve n).run ImportSet.empty).2.statements = [l] ∧ k ≠ l := by
  obtain ⟨hnamed, rfl⟩ := declarationFile_eq_ok.1 h
  have himports := newline_not_mem_imports fun name hname => (hclean name hname).2
  refine ⟨⟨d.imports, Text.splitAt '\n' d.resolved.block, ?_, ?_, ?_⟩, ?_⟩
  · rw [Text.splitAt_ofLines_append fun l hl => (himports l hl).2, Text.splitAt_sep_cons]
  · exact fun hempty => (himports [] hempty).1 rfl
  · exact length_imports fun name hname => (hclean name hname).1
  · intro m hm n hn hneeds hneeds' hmn
    obtain ⟨k, hk⟩ := exists_statement_iff.2 hneeds
    obtain ⟨l, hl⟩ := exists_statement_iff.2 hneeds'
    refine ⟨k, l, resolve_leaves (hnamed m hm) hk, resolve_leaves (hnamed n hn) hl, ?_⟩
    rintro rfl
    exact hmn (statement?_inj (hclean m hm).1 (hclean n hn).1 hk hl)

/-- one short name from three packages, one of them twice and one that looks like a part of a statement, and names that
need no import -/
theorem declarationFile_statements_three :
    let m : Method := ⟨"m", [⟨"a", "a.Node"⟩, ⟨"b", "b.Node"⟩, ⟨"c", "a.Node"⟩], "java.lang.String", false⟩
    let d : Descriptor := ⟨"zoo.Dog", some "Node", none, [m], some [⟨"f", "b \x7d from .Node", false⟩]⟩
    ∃ text, d.declarationFile = .ok text ∧
      (∀ name ∈ d.references, CodePoint.ofChar '\'' ∉ name ∧ CodePoint.ofChar '\n' ∉ name) ∧
      ∃ before after, Text.splitAt '\n' text = before ++ [] :: after ∧ [] ∉ before ∧ before.length = 3 := by
  intro m d
  have hclean : ∀ name ∈ d.references, CodePoint.ofChar '\'' ∉ name ∧ CodePoint.ofChar '\n' ∉ name := by decide
  have hfile := declarationFile_eq_ok.2 ⟨(by decide : ∀ name ∈ d.references, dangles name = false), rfl⟩
  obtain ⟨⟨before, after, hsplit, hempty, hlength⟩, -⟩ := declarationFile_statements hfile hclean
  refine ⟨_, hfile, hclean, before, after, hsplit, hempty, ?_⟩
  rw [hlength]
  decide

end Descriptor

end Typings
