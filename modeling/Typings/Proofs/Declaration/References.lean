/-
References: the type names of a declaration, in the order in which they are resolved.

A declaration refers to its superclass, then to the types of each constructor's parameters, then for each method to
its return type and the types of its parameters, then to the type of each field. A reference that ends with a dot
has nothing to write and ends the resolution.
- `registerAll_statements`: statements registered one after another come behind those that are there, each once.
- `resolve_run`: what one name writes and leaves; `takeIn_eq`: what names leave that are resolved in turn.
- `Resolves`: a computation that takes in names and then gives a value. Parts make a whole: `Resolves.bind`,
  `Resolves.map`, `Resolves.mapM`.
- `declaration_resolves`: a declaration takes in its references and gives the block of its resolved descriptor.
- `declaration_imports`: the imports that it leaves, whether it comes to its end or not.
-/
import Mathlib.Tactic
import Typings.Declaration
import Typings.Proofs.Text.Pieces

namespace Typings

/-! ## Statements -/

namespace ImportSet

theorem register_statements (s : ImportSet) (t : Text) :
    (s.register t).statements = if t ∈ s.statements then s.statements else s.statements ++ [t] := by
  unfold register
  split_ifs <;> rfl

/-- statements registered one after another -/
def registerAll (s : ImportSet) (ts : List Text) : ImportSet := ts.foldl register s

/-- **Statements registered one after another** come behind those that are there, in the order in which they are new,
each once. -/
theorem registerAll_statements (s : ImportSet) (ts : List Text) :
    (s.registerAll ts).statements = s.statements ++ (ts.filter (· ∉ s.statements)).eraseDups := by
  induction ts generalizing s with
  | nil => simp [registerAll]
  | cons t ts ih =>
    have hcons : s.registerAll (t :: ts) = (s.register t).registerAll ts := rfl
    rw [hcons, ih, register_statements]
    by_cases ht : t ∈ s.statements
    · simp [ht]
    · -- the rest is new if it is neither there nor `t`
      have hrest : ts.filter (· ∉ s.statements ++ [t]) =
          (ts.filter (· ∉ s.statements)).filter fun u => !u == t := by
        rw [List.filter_filter]
        refine List.filter_congr fun u _ => ?_
        simp [and_comm, Bool.beq_eq_decide_eq]
      rw [if_neg ht, hrest, List.filter_cons_of_pos (by simpa using ht), List.eraseDups_cons, List.append_assoc]
      rfl

theorem registerAll_empty (ts : List Text) : (empty.registerAll ts).statements = ts.eraseDups := by
  rw [registerAll_statements]
  simp [empty]

theorem registerAll_append (s : ImportSet) (ts us : List Text) :
    s.registerAll (ts ++ us) = (s.registerAll ts).registerAll us :=
  List.foldl_append

end ImportSet

/-! ## Names -/

namespace TypeName

/-- whether nothing follows the last dot of a name -/
def dangles (name : Text) : Bool := name.endsWith "."

/-- what is written for a name that does not dangle -/
def written (name : Text) : Text := spell (short name)

/-- short names that never need an import -/
def plainNames : List Text := ["boolean", "String", "string", "void"]

/-- the statement that a name leaves: a dotted one does, unless its short name needs none -/
def statement? (name : Text) : Option Text :=
  match name.splitLast '.' with
  | none => none
  | some (package, short) => if plainNames.contains short then none else some (importStatement short package)

/-- only one primitive is written in another way -/
theorem spell_eq (short : Text) : spell short = if short = ("String" : Text) then ("string" : Text) else short := by
  unfold spell spellings
  by_cases h1 : short = ("boolean" : Text)
  · subst h1; decide
  by_cases h2 : short = ("String" : Text)
  · subst h2; decide
  by_cases h3 : short = ("void" : Text)
  · subst h3; decide
  simp only [List.lookup_cons, beq_eq_false_iff_ne.2 h1, beq_eq_false_iff_ne.2 h2, beq_eq_false_iff_ne.2 h3,
    if_neg h2]
  rfl

theorem isPrimitive_iff {t : Text} :
    isPrimitive t = true ↔ t = ("boolean" : Text) ∨ t = ("string" : Text) ∨ t = ("void" : Text) := by
  simp only [isPrimitive, spellings, List.any_cons, List.any_nil, Bool.or_false, Bool.or_eq_true, beq_iff_eq]
  rw [eq_comm (b := t), eq_comm (b := t), eq_comm (b := t)]

theorem isPrimitive_spell_iff (short : Text) : isPrimitive (spell short) = true ↔ short ∈ plainNames := by
  rw [isPrimitive_iff, spell_eq]
  simp only [plainNames, List.mem_cons, List.not_mem_nil, or_false]
  split_ifs with h
  · subst h; decide
  · simp only [h, false_or]

theorem dangles_iff {name : Text} : dangles name = true ↔ ∃ package, name.splitLast '.' = some (package, []) := by
  rw [dangles, Text.endsWith, List.isSuffixOf_iff_suffix]
  constructor
  · rintro ⟨package, rfl⟩
    exact ⟨package, Text.splitLast_append (by simp) package⟩
  · rintro ⟨package, h⟩
    exact ⟨package, (Text.splitLast_eq_some h).1.symm⟩

/-! A name is bare, or its last dot divides it into a package and a short name. -/

variable {name last : Text}

theorem dangles_append_iff (h : CodePoint.ofChar '.' ∉ last) (package : Text) :
    dangles (package ++ CodePoint.ofChar '.' :: last) = true ↔ last = [] := by
  rw [dangles_iff, Text.splitLast_append h]
  simp

theorem written_of_bare (h : CodePoint.ofChar '.' ∉ name) : written name = spell name := by
  simp only [written, short, Text.splitLast_of_not_mem h]

theorem written_append (h : CodePoint.ofChar '.' ∉ last) (package : Text) :
    written (package ++ CodePoint.ofChar '.' :: last) = spell last := by
  simp only [written, short, Text.splitLast_append h]

theorem statement?_of_bare (h : CodePoint.ofChar '.' ∉ name) : statement? name = none := by
  simp only [statement?, Text.splitLast_of_not_mem h]

theorem statement?_append (h : CodePoint.ofChar '.' ∉ last) (package : Text) :
    statement? (package ++ CodePoint.ofChar '.' :: last) =
      if isPrimitive (spell last) then none else some (importStatement last package) := by
  simp only [statement?, Text.splitLast_append h, isPrimitive_spell_iff, List.contains_iff_mem]

theorem resolve_bare (h : CodePoint.ofChar '.' ∉ name) : resolve name = pure (spell name) := by
  simp [resolve, h]

/-- a bare name leaves nothing -/
theorem run_bare (h : CodePoint.ofChar '.' ∉ name) (s : ImportSet) : (resolve name).run s = (.ok (spell name), s) := by
  rw [resolve_bare h]
  rfl

/-- a dotted name is spelled as its short name, and binds that one unless it is a primitive -/
theorem run_dotted (hne : last ≠ []) (h : CodePoint.ofChar '.' ∉ last) (package : Text) (s : ImportSet) :
    (resolve (package ++ CodePoint.ofChar '.' :: last)).run s =
      (.ok (spell last), if isPrimitive (spell last) then s else s.bind last package) := by
  have hdot : CodePoint.ofChar '.' ∈ package ++ CodePoint.ofChar '.' :: last := by simp
  have hsplit : split (package ++ CodePoint.ofChar '.' :: last) = .ok (package, last) := by
    simp [split, Text.splitLast_append h, hne]
  simp only [resolve, List.contains_iff_mem, hdot, if_true, hsplit]
  change ExceptT.run (m := StateM ImportSet) (if isPrimitive (spell last) then _ else _) s = _
  split_ifs <;> rfl

/-- a name that dangles is refused and leaves nothing -/
theorem run_dangling (h : dangles name = true) (s : ImportSet) : (resolve name).run s = (.error ⟨name⟩, s) := by
  obtain ⟨package, hsplit⟩ := dangles_iff.1 h
  have hdot : CodePoint.ofChar '.' ∈ name := by
    rw [(Text.splitLast_eq_some hsplit).1]
    simp
  have hrefused : split name = .error ⟨name⟩ := by simp [split, hsplit]
  simp only [resolve, List.contains_iff_mem, hdot, if_true, hrefused]
  rfl

/-- **A name is resolved** to what is written for it, and leaves its statement; one that dangles leaves nothing. -/
theorem resolve_run (name : Text) (s : ImportSet) :
    (resolve name).run s =
      if dangles name then (.error ⟨name⟩, s) else (.ok (written name), s.registerAll (statement? name).toList) := by
  by_cases hd : dangles name = true
  · rw [run_dangling hd, if_pos hd]
  · rw [if_neg hd]
    by_cases hdot : CodePoint.ofChar '.' ∈ name
    · obtain ⟨package, last, rfl, hlast⟩ := Text.exists_last hdot
      have hne : last ≠ [] := mt (dangles_append_iff hlast package).2 hd
      rw [run_dotted hne hlast, written_append hlast, statement?_append hlast]
      split_ifs <;> rfl
    · rw [run_bare hdot, written_of_bare hdot, statement?_of_bare hdot]
      rfl

/-! ## Taking names in -/

/-- names that are resolved one after another, up to the first one that dangles -/
def takeIn : List Text → ImportSet → Except Unnamed Unit × ImportSet
  | [], s => (.ok (), s)
  | name :: names, s =>
    if dangles name then (.error ⟨name⟩, s) else takeIn names (s.registerAll (statement? name).toList)

/-- the first name that dangles, as an outcome -/
def outcome (names : List Text) : Except Unnamed Unit :=
  match names.find? dangles with
  | none => .ok ()
  | some name => .error ⟨name⟩

theorem outcome_eq_ok {names : List Text} {u : Unit} :
    outcome names = .ok u ↔ ∀ name ∈ names, dangles name = false := by
  rw [outcome]
  cases h : names.find? dangles with
  | none => simpa using h
  | some name =>
    have hname := List.find?_some h
    simp only [reduceCtorEq, false_iff, not_forall]
    exact ⟨name, List.mem_of_find?_eq_some h, by simp [hname]⟩

theorem takeIn_eq (names : List Text) (s : ImportSet) :
    takeIn names s = (outcome names, s.registerAll ((names.takeWhile fun n => !dangles n).filterMap statement?)) := by
  induction names generalizing s with
  | nil => rfl
  | cons name names ih =>
    by_cases hd : dangles name = true
    · simp only [takeIn, outcome, List.find?_cons, List.takeWhile_cons, hd]
      rfl
    · have hd : dangles name = false := by simpa using hd
      simp only [takeIn, outcome, List.find?_cons, List.takeWhile_cons, hd, ih, Bool.false_eq_true, if_false,
        Bool.not_false, if_true, List.filterMap_cons]
      cases statement? name <;> rfl

theorem takeIn_append (ns ms : List Text) (s : ImportSet) :
    takeIn (ns ++ ms) s =
      match takeIn ns s with
      | (.ok _, t) => takeIn ms t
      | (.error e, t) => (.error e, t) := by
  induction ns generalizing s with
  | nil => rfl
  | cons n ns ih =>
    simp only [List.cons_append, takeIn]
    split_ifs
    · rfl
    · exact ih _

end TypeName

/-! ## Computations that take names in -/

open Typings.TypeName

/-- a computation that takes in names, whatever has been collected before, and then gives a value -/
def Resolves {α : Type} (m : Resolving α) (names : List Text) (a : α) : Prop :=
  ∀ s, m.run s = ((takeIn names s).1.map fun _ => a, (takeIn names s).2)

namespace Resolves

variable {α β : Type} {m : Resolving α} {a : α} {b : β} {ns ms : List Text}

theorem resolve (name : Text) : Resolves (TypeName.resolve name) [name] (written name) := by
  intro s
  rw [resolve_run]
  simp only [takeIn]
  split_ifs <;> rfl

theorem pure (a : α) : Resolves (Pure.pure a) [] a := fun _ => rfl

theorem bind {f : α → Resolving β} (hm : Resolves m ns a) (hf : Resolves (f a) ms b) :
    Resolves (m >>= f) (ns ++ ms) b := by
  intro s
  have hrun : (m >>= f).run s = match m.run s with
      | (.ok x, t) => (f x).run t
      | (.error e, t) => (.error e, t) := by
    change (match m.run s with | (x, t) => ExceptT.bindCont f x t) = _
    rcases m.run s with ⟨_ | _, t⟩ <;> rfl
  rw [hrun, hm s, takeIn_append]
  rcases takeIn ns s with ⟨_ | _, t⟩
  · rfl
  · exact hf t

theorem map (f : α → β) (hm : Resolves m ns a) : Resolves (f <$> m) ns (f a) := by
  have h := hm.bind (f := fun x => Pure.pure (f x)) (Resolves.pure (f a))
  rw [List.append_nil] at h
  exact h

theorem mapM {f : α → Resolving β} {names : α → List Text} {g : α → β}
    (h : ∀ x, Resolves (f x) (names x) (g x)) (xs : List α) :
    Resolves (xs.mapM f) (xs.flatMap names) (xs.map g) := by
  induction xs with
  | nil => exact Resolves.pure []
  | cons x xs ih =>
    rw [List.mapM_cons, List.flatMap_cons, List.map_cons]
    exact (h x).bind (ih.map (g x :: ·))

end Resolves

/-! ## The references of a descriptor -/

def Constructor.references (c : Constructor) : List Text := c.params.map Parameter.type

/-- the return type comes first, though it stands last on the line -/
def Method.references (m : Method) : List Text := m.returnType :: m.params.map Parameter.type

namespace Descriptor

/-- the superclass, if it has a name -/
def parent? (d : Descriptor) : Option Text := d.superClass.filter fun name => !name.isEmpty

theorem parent?_eq_some {d : Descriptor} {name : Text} : d.parent? = some name ↔ d.superClass = some name ∧ name ≠ [] := by
  simp [parent?, Option.filter_eq_some_iff]

/-- all type names in the order in which they are resolved -/
def references (d : Descriptor) : List Text :=
  d.parent?.toList ++ (d.constructors.getD []).flatMap Constructor.references ++
    d.methods.flatMap Method.references ++ (d.fields.getD []).map Field.type

end Descriptor

/-! ## Resolved descriptors

A resolved descriptor has every type as it is written; its block is put together without resolving anything. -/

def Parameter.resolved (p : Parameter) : Parameter := ⟨p.name, written p.type⟩

def Constructor.resolved (c : Constructor) : Constructor := ⟨c.params.map Parameter.resolved⟩

def Method.resolved (m : Method) : Method :=
  ⟨m.name, m.params.map Parameter.resolved, written m.returnType, m.isStatic⟩

def Field.resolved (f : Field) : Field := ⟨f.name, written f.type, f.isStatic⟩

/-- the class by its short name, every type as it is written; absent lists are empty ones -/
def Descriptor.resolved (d : Descriptor) : Descriptor where
  name := d.shortName
  superClass := d.parent?.map written
  constructors := some ((d.constructors.getD []).map Constructor.resolved)
  methods := d.methods.map Method.resolved
  fields := some ((d.fields.getD []).map Field.resolved)

/-- a parameter as it stands between the brackets -/
def Parameter.shown (p : Parameter) : Text := p.name ++ ": " ++ p.type

def shownParameters (ps : List Parameter) : Text := Text.join ", " (ps.map Parameter.shown)

def Constructor.member (c : Constructor) : Member := .constructor (shownParameters c.params)

def Method.member (m : Method) : Member := .method m.isStatic m.name (shownParameters m.params) m.returnType

def Field.member (f : Field) : Member := .field f.isStatic f.name f.type

namespace Descriptor

/-- the members in the order of their lines -/
def members (d : Descriptor) : List Member :=
  (d.constructors.getD []).map Constructor.member ++ d.methods.map Method.member ++
    (d.fields.getD []).map Field.member

/-- the class block of a descriptor whose types are written as they are -/
def block (d : Descriptor) : Text := classBlock d.name d.superClass d.members

end Descriptor

/-! ## A declaration takes its references in -/

theorem resolveParameters_resolves (ps : List Parameter) :
    Resolves (resolveParameters ps) (ps.map Parameter.type) (shownParameters (ps.map Parameter.resolved)) := by
  have hshown (p : Parameter) : Resolves
      (do return p.name ++ ": " ++ (← TypeName.resolve p.type) : Resolving Text) [p.type] p.resolved.shown :=
    (Resolves.resolve p.type).map fun t => p.name ++ ": " ++ t
  have h := (Resolves.mapM hshown ps).map (Text.join ", ")
  rw [← List.map_eq_flatMap] at h
  rw [shownParameters, List.map_map]
  exact h

theorem resolveParent_resolves (parent : Option Text) :
    Resolves (resolveParent parent) (parent.filter fun name => !name.isEmpty).toList
      ((parent.filter fun name => !name.isEmpty).map written) := by
  cases parent with
  | none => exact Resolves.pure none
  | some name =>
    by_cases hn : name = []
    · subst hn
      exact Resolves.pure none
    · have hf : (some name).filter (fun name => !name.isEmpty) = some name := by simp [hn]
      rw [hf, resolveParent, if_neg (by simpa using hn)]
      exact (Resolves.resolve name).map some

theorem Constructor.resolve_resolves (c : Constructor) : Resolves c.resolve c.references c.resolved.member :=
  (resolveParameters_resolves c.params).map Member.constructor

theorem Method.resolve_resolves (m : Method) : Resolves m.resolve m.references m.resolved.member :=
  (Resolves.resolve m.returnType).bind ((resolveParameters_resolves m.params).map _)

theorem Field.resolve_resolves (f : Field) : Resolves f.resolve [f.type] f.resolved.member :=
  (Resolves.resolve f.type).map _

namespace Descriptor

/-- **A declaration takes in its references**, and gives the block of its resolved descriptor. -/
theorem declaration_resolves (d : Descriptor) : Resolves d.declaration d.references d.resolved.block := by
  have hparent : Resolves (resolveParent d.superClass) d.parent?.toList d.resolved.superClass :=
    resolveParent_resolves d.superClass
  have hconstructors := Resolves.mapM Constructor.resolve_resolves (d.constructors.getD [])
  have hmethods := Resolves.mapM Method.resolve_resolves d.methods
  have hfields := Resolves.mapM Field.resolve_resolves (d.fields.getD [])
  have hblock : d.resolved.block = classBlock d.shortName d.resolved.superClass
      ((d.constructors.getD []).map (fun c => c.resolved.member) ++ d.methods.map (fun m => m.resolved.member) ++
        (d.fields.getD []).map fun f => f.resolved.member) := by
    simp only [block, members, resolved, Option.getD_some, List.map_map]
    rfl
  have hreferences : d.references = d.parent?.toList ++ ((d.constructors.getD []).flatMap Constructor.references ++
      (d.methods.flatMap Method.references ++ (d.fields.getD []).flatMap fun f => [f.type])) := by
    simp only [references, List.append_assoc, List.map_eq_flatMap]
  rw [hblock, hreferences, declaration]
  refine hparent.bind (hconstructors.bind (hmethods.bind ?_))
  exact hfields.map fun fields => classBlock d.shortName d.resolved.superClass (_ ++ _ ++ fields)

/-- **Imports are exactly the referenced ones, also on failure.** A declaration succeeds if none of its references
dangles, and otherwise fails with the first one that does. The statements of the references before that one, of all
without one, come behind those that were there: in the order of first reference, each once, none that was there. -/
theorem declaration_imports (d : Descriptor) (s : ImportSet) :
    (d.declaration.run s).1 = (match d.references.find? dangles with
      | none => .ok d.resolved.block
      | some name => .error ⟨name⟩) ∧
    (d.declaration.run s).2.statements = s.statements ++
      (((d.references.takeWhile fun name => !dangles name).filterMap statement?).filter
        (· ∉ s.statements)).eraseDups := by
  rw [d.declaration_resolves s, takeIn_eq]
  refine ⟨?_, ImportSet.registerAll_statements s _⟩
  simp only [outcome]
  cases d.references.find? dangles <;> rfl

-- what a method returns is resolved before its parameters; the second of these dangles
example :
    let m : Method := ⟨"m", [⟨"a", "p.A"⟩, ⟨"b", "q."⟩, ⟨"c", "p.D"⟩], "p.C", false⟩
    let d : Descriptor := ⟨"T", some "p.A", none, [m], none⟩
    let s := ImportSet.empty.bind "B" "p"
    (d.declaration.run s).1 = .error ⟨"q."⟩ ∧
      (d.declaration.run s).2.statements =
        [importStatement "B" "p", importStatement "A" "p", importStatement "C" "p"] := by
  decide

end Descriptor

end Typings
