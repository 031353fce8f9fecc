/-
Legible files: a declaration file tells everything that it was made of.

The lines carry no tags. What tells constructors, methods and fields apart is the mark behind the first word and, for
a method called `constructor`, what follows the closing bracket; `static` is a mark only before a blank.
- `split_unique`: two texts that begin alike up to their first mark have the same word and the same rest.
- `Member.render_inj`, `shownParameters_inj`, `classHeader_inj`: what one line tells.
- `blockLines_inj`: a class block tells its class.
- `declarationFile_eq_iff`: two legible descriptors have the same file exactly if their imports and their resolved
  descriptors are the same. Nothing else goes into a file, and nothing of this is lost.
-/
import Typings.Proofs.Declaration.Lines

namespace Typings

open Typings.TypeName

/-! ## Words and rests -/

section Split

variable {α : Type} {P : α → Prop} {a b r s : List α}

/-- **A list is split uniquely** into what comes before the first element with a property and the rest. -/
theorem split_unique (ha : ∀ x ∈ a, ¬ P x) (hb : ∀ x ∈ b, ¬ P x) (hr : ∀ x ∈ r.head?, P x)
    (hs : ∀ x ∈ s.head?, P x) (h : a ++ r = b ++ s) : a = b ∧ r = s := by
  -- of two parts that differ the longer one would have the other's first element behind it
  rcases List.append_eq_append_iff.1 h with ⟨c, rfl, rfl⟩ | ⟨c, rfl, rfl⟩
  · cases c with
    | nil => simp
    | cons x c => exact absurd (hr x rfl) (hb x (by simp))
  · cases c with
    | nil => simp
    | cons x c => exact absurd (hs x rfl) (ha x (by simp))

end Split

theorem word_unique {a b r s : Text} (ha : Unmarked a) (hb : Unmarked b) (hr : ∀ c ∈ r.head?, c ∈ marks)
    (hs : ∀ c ∈ s.head?, c ∈ marks) (h : a ++ r = b ++ s) : a = b ∧ r = s :=
  split_unique ha hb hr hs h

theorem eq_of_map_eq {α β : Type} {f : α → β} {xs ys : List α} (hinj : ∀ x ∈ xs, ∀ y ∈ ys, f x = f y → x = y)
    (h : xs.map f = ys.map f) : xs = ys := by
  induction xs generalizing ys with
  | nil => exact (List.map_eq_nil_iff.1 h.symm).symm
  | cons x xs ih =>
    obtain ⟨y, ys, rfl, hy, hys⟩ := List.map_eq_cons_iff.1 h.symm
    have hx := hinj x List.mem_cons_self y List.mem_cons_self hy.symm
    have hxs := ih (fun x hx y hy => hinj x (List.mem_cons_of_mem _ hx) y (List.mem_cons_of_mem _ hy)) hys.symm
    rw [hx, hxs]

/-! ## Parameters -/

/-- **A parameter and what follows it** are told apart, whatever follows. -/
theorem shown_append_unique {p q : Parameter} (hp : p.Plain) (hq : q.Plain) {r s : Text}
    (hr : ∀ c ∈ r.head?, c ∈ marks) (hs : ∀ c ∈ s.head?, c ∈ marks) (h : p.shown ++ r = q.shown ++ s) :
    p = q ∧ r = s := by
  have hcolon : ∀ t : Text, ∀ c ∈ ((": " : Text) ++ t).head?, c ∈ marks := by
    intro t c hc
    cases hc
    decide
  simp only [Parameter.shown, List.append_assoc] at h
  obtain ⟨hname, hrest⟩ := word_unique hp.name hq.name (hcolon _) (hcolon _) h
  obtain ⟨htype, hend⟩ := word_unique hp.type hq.type hr hs (List.append_cancel_left hrest)
  refine ⟨?_, hend⟩
  cases p
  cases q
  cases hname
  cases htype
  rfl

/-- the parameters behind the first one -/
def furtherParameters (ps : List Parameter) : Text := ps.flatMap fun p => (", " : Text) ++ p.shown

theorem furtherParameters_head (ps : List Parameter) : ∀ c ∈ (furtherParameters ps).head?, c ∈ marks := by
  intro c hc
  cases ps with
  | nil => cases hc
  | cons p ps =>
    cases hc
    decide

theorem furtherParameters_inj {ps qs : List Parameter} (hps : ∀ p ∈ ps, p.Plain) (hqs : ∀ q ∈ qs, q.Plain)
    (h : furtherParameters ps = furtherParameters qs) : ps = qs := by
  induction ps generalizing qs with
  | nil =>
    cases qs with
    | nil => rfl
    | cons q qs => cases h
  | cons p ps ih =>
    cases qs with
    | nil => cases h
    | cons q qs =>
      have h : (", " : Text) ++ (p.shown ++ furtherParameters ps) =
          (", " : Text) ++ (q.shown ++ furtherParameters qs) := by
        simpa only [furtherParameters, List.flatMap_cons, List.append_assoc] using h
      obtain ⟨hpq, hrest⟩ := shown_append_unique (hps p List.mem_cons_self) (hqs q List.mem_cons_self)
        (furtherParameters_head ps) (furtherParameters_head qs) (List.append_cancel_left h)
      rw [hpq, ih (fun p hp => hps p (List.mem_cons_of_mem _ hp)) (fun q hq => hqs q (List.mem_cons_of_mem _ hq)) hrest]

theorem shown_ne_nil (p : Parameter) : p.shown ≠ [] := by
  unfold Parameter.shown
  exact List.append_ne_nil_of_left_ne_nil (List.append_ne_nil_of_right_ne_nil _ (by decide)) _

/-- **A parameter list tells its parameters.** -/
theorem shownParameters_inj {ps qs : List Parameter} (hps : ∀ p ∈ ps, p.Plain) (hqs : ∀ q ∈ qs, q.Plain)
    (h : shownParameters ps = shownParameters qs) : ps = qs := by
  have hfurther (p : Parameter) (ps : List Parameter) :
      (", " : Text) ++ shownParameters (p :: ps) = furtherParameters (p :: ps) := by
    rw [shownParameters_cons, furtherParameters, List.flatMap_cons, List.append_assoc]
  cases ps with
  | nil =>
    cases qs with
    | nil => rfl
    | cons q qs =>
      rw [shownParameters_cons] at h
      exact absurd h.symm (List.append_ne_nil_of_left_ne_nil (shown_ne_nil q) _)
  | cons p ps =>
    cases qs with
    | nil =>
      rw [shownParameters_cons] at h
      exact absurd h (List.append_ne_nil_of_left_ne_nil (shown_ne_nil p) _)
    | cons q qs =>
      refine furtherParameters_inj hps hqs ?_
      rw [← hfurther, ← hfurther, h]

/-! ## Members

A member is a word, perhaps a mark before it, and the rest of its line, which begins with a bracket or a colon. -/

namespace Member

def isStatic : Member → Bool
  | .constructor _ => false
  | .method isStatic _ _ _ => isStatic
  | .field isStatic _ _ => isStatic

/-- the first word of a member behind the static mark -/
def word : Member → Text
  | .constructor _ => "constructor"
  | .method _ name _ _ => name
  | .field _ name _ => name

/-- what follows the first word -/
def rest : Member → Text
  | .constructor params => "(" ++ (params ++ ");")
  | .method _ _ params returnType => "(" ++ (params ++ ("): " ++ (returnType ++ ";")))
  | .field _ _ type => ": " ++ (type ++ ";")

theorem render_eq (m : Member) : m.render = staticMark m.isStatic ++ (m.word ++ m.rest) := by
  cases m with
  | constructor params => exact List.append_assoc "constructor(" params ");"
  | method isStatic name params returnType =>
    change staticMark isStatic ++ name ++ ("(" : Text) ++ params ++ ("): " : Text) ++ returnType ++ (";" : Text) =
      staticMark isStatic ++ (name ++ ("(" ++ (params ++ ("): " ++ (returnType ++ ";")))))
    simp only [List.append_assoc]
  | field isStatic name type =>
    change staticMark isStatic ++ name ++ (": " : Text) ++ type ++ (";" : Text) =
      staticMark isStatic ++ (name ++ (": " ++ (type ++ ";")))
    simp only [List.append_assoc]

theorem rest_head (m : Member) : ∀ c ∈ m.rest.head?, c ∈ marks ∧ c ≠ CodePoint.ofChar ' ' := by
  intro c hc
  cases m <;> cases hc <;> decide

theorem Plain.word {m : Member} (h : m.Plain) : Unmarked m.word := by
  cases m with
  | constructor params =>
    change Unmarked "constructor"
    decide
  | method isStatic name params returnType => exact h.1
  | field isStatic name type => exact h.1

/-- a word before a bracket or a colon is not the static mark -/
theorem static_ne {t r s : Text} (ht : Unmarked t) (hr : ∀ c ∈ r.head?, c ∈ marks ∧ c ≠ CodePoint.ofChar ' ') :
    staticMark true ++ s ≠ t ++ r := by
  intro h
  have hstatic : Unmarked "static" := by decide
  have h : ("static" : Text) ++ CodePoint.ofChar ' ' :: s = t ++ r := h
  have hblank : ∀ c ∈ (CodePoint.ofChar ' ' :: s).head?, c ∈ marks := by
    intro c hc
    cases hc
    decide
  obtain ⟨-, hrest⟩ := word_unique hstatic ht hblank (fun c hc => (hr c hc).1) h
  exact (hr (CodePoint.ofChar ' ') (by rw [← hrest]; rfl)).2 rfl

/-- **The first word of a member** and whether it is static are told by what is before the first bracket or colon. -/
theorem start_unique {m n : Member} (hm : m.Plain) (hn : n.Plain) (h : m.render = n.render) :
    m.isStatic = n.isStatic ∧ m.word = n.word ∧ m.rest = n.rest := by
  rw [render_eq, render_eq] at h
  have hword (h : m.word ++ m.rest = n.word ++ n.rest) : m.word = n.word ∧ m.rest = n.rest :=
    word_unique hm.word hn.word (fun c hc => (m.rest_head c hc).1) (fun c hc => (n.rest_head c hc).1) h
  cases hs : m.isStatic <;> cases ht : n.isStatic <;> rw [hs, ht] at h
  · exact ⟨rfl, hword h⟩
  · have h : m.word ++ m.rest = staticMark true ++ (n.word ++ n.rest) := h
    exact absurd h.symm (static_ne hm.word m.rest_head)
  · have h : staticMark true ++ (m.word ++ m.rest) = n.word ++ n.rest := h
    exact absurd h (static_ne hn.word n.rest_head)
  · exact ⟨rfl, hword (List.append_cancel_left h)⟩

/-- **A parameter list ends at its bracket.** -/
theorem params_unique {params others r s : Text} (hp : Enclosed params) (hq : Enclosed others)
    (h : params ++ CodePoint.ofChar ')' :: r = others ++ CodePoint.ofChar ')' :: s) : params = others ∧ r = s := by
  have hbracket : ∀ t : Text, ∀ c ∈ (CodePoint.ofChar ')' :: t).head?, c = CodePoint.ofChar ')' := by
    rintro t c hc
    cases hc
    rfl
  have hfree {params : Text} (hp : Enclosed params) : ∀ c ∈ params, ¬ c = CodePoint.ofChar ')' := by
    rintro c hc rfl
    exact hp.bracket hc
  obtain ⟨hparams, hrest⟩ := split_unique (hfree hp) (hfree hq) (hbracket r) (hbracket s) h
  exact ⟨hparams, List.tail_eq_of_cons_eq hrest⟩

/-- **A line tells its member.** -/
theorem render_inj {m n : Member} (hm : m.Plain) (hn : n.Plain) (h : m.render = n.render) : m = n := by
  obtain ⟨hstatic, hword, hrest⟩ := start_unique hm hn h
  -- a bracket is not a colon, within the rest or at its beginning
  have hcolon : CodePoint.ofChar '(' ≠ CodePoint.ofChar ':' := by decide
  have hsemicolon : CodePoint.ofChar ';' ≠ CodePoint.ofChar ':' := by decide
  cases m with
  | constructor params =>
    cases n with
    | constructor others =>
      obtain ⟨hparams, -⟩ := params_unique hm hn (List.tail_eq_of_cons_eq hrest)
      rw [hparams]
    | method isStatic name others returnType =>
      obtain ⟨-, hend⟩ := params_unique hm hn.2.1 (List.tail_eq_of_cons_eq hrest)
      exact absurd (List.head_eq_of_cons_eq hend) hsemicolon
    | field isStatic name type => exact absurd (List.head_eq_of_cons_eq hrest) hcolon
  | method isStatic name params returnType =>
    cases n with
    | constructor others =>
      obtain ⟨-, hend⟩ := params_unique hm.2.1 hn (List.tail_eq_of_cons_eq hrest)
      exact absurd (List.head_eq_of_cons_eq hend).symm hsemicolon
    | method isStatic' name' others returnType' =>
      obtain ⟨hparams, hend⟩ := params_unique hm.2.1 hn.2.1 (List.tail_eq_of_cons_eq hrest)
      have hend : (": " : Text) ++ (returnType ++ ";") = ": " ++ (returnType' ++ ";") := hend
      have htype : returnType = returnType' := List.append_cancel_right (List.append_cancel_left hend)
      cases hstatic
      cases hword
      rw [hparams, htype]
    | field isStatic' name' type => exact absurd (List.head_eq_of_cons_eq hrest) hcolon
  | field isStatic name type =>
    cases n with
    | constructor others => exact absurd (List.head_eq_of_cons_eq hrest).symm hcolon
    | method isStatic' name' others returnType => exact absurd (List.head_eq_of_cons_eq hrest).symm hcolon
    | field isStatic' name' type' =>
      have htype : type = type' := List.append_cancel_right (List.append_cancel_left hrest)
      cases hstatic
      cases hword
      rw [htype]

end Member

/-! ## Classes -/

theorem Constructor.member_inj {b c : Constructor} (hb : ∀ p ∈ b.params, p.Plain) (hc : ∀ p ∈ c.params, p.Plain)
    (h : b.member = c.member) : b = c := by
  have hparams := shownParameters_inj hb hc (Member.constructor.inj h)
  cases b
  cases c
  cases hparams
  rfl

theorem Method.member_inj {l m : Method} (hl : l.Plain) (hm : m.Plain) (h : l.member = m.member) : l = m := by
  obtain ⟨hstatic, hname, hshown, htype⟩ := Member.method.inj h
  have hparams := shownParameters_inj hl.params hm.params hshown
  cases l
  cases m
  cases hstatic
  cases hname
  cases hparams
  cases htype
  rfl

theorem Field.member_inj {f g : Field} (h : f.member = g.member) : f = g := by
  obtain ⟨hstatic, hname, htype⟩ := Member.field.inj h
  cases f
  cases g
  cases hstatic
  cases hname
  cases htype
  rfl

theorem extendsClause_inj {p q : Option Text} (h : extendsClause p = extendsClause q) : p = q := by
  cases p with
  | none =>
    cases q with
    | none => rfl
    | some t => exact absurd h.symm (List.append_ne_nil_of_left_ne_nil (by decide) t)
  | some t =>
    cases q with
    | none => exact absurd h (List.append_ne_nil_of_left_ne_nil (by decide) t)
    | some u => rw [List.append_cancel_left h]

/-- **The first line of a block tells the class and its superclass.** -/
theorem classHeader_inj {m n : Text} {p q : Option Text} (hm : Unmarked m) (hn : Unmarked n)
    (h : classHeader m p = classHeader n q) : m = n ∧ p = q := by
  have hblank (r : Option Text) : ∀ c ∈ (extendsClause r ++ (" \x7b" : Text)).head?, c ∈ marks := by
    intro c hc
    have hc : some (CodePoint.ofChar ' ') = some c := by cases r <;> exact hc
    cases hc
    decide
  have hsplit (name : Text) (parent : Option Text) : classHeader name parent =
      "export class " ++ (name ++ (extendsClause parent ++ (" \x7b" : Text))) := by
    unfold classHeader
    rw [List.append_assoc, List.append_assoc]
  rw [hsplit, hsplit] at h
  obtain ⟨hname, hrest⟩ := word_unique hm hn (hblank p) (hblank q) (List.append_cancel_left h)
  exact ⟨hname, extendsClause_inj (List.append_cancel_right hrest)⟩

def Member.isConstructor : Member → Bool
  | .constructor _ => true
  | _ => false

def Member.isField : Member → Bool
  | .field _ _ _ => true
  | _ => false

namespace Descriptor

/-- **Members of different kinds stand one kind after the other**, so their list tells the list of each kind. -/
theorem members_inj {d e : Descriptor} (hd : d.Plain) (he : e.Plain) (h : d.members = e.members) :
    d.constructors.getD [] = e.constructors.getD [] ∧ d.methods = e.methods ∧
      d.fields.getD [] = e.fields.getD [] := by
  have hconstructor (d : Descriptor) : ∀ m ∈ (d.constructors.getD []).map Constructor.member,
      ¬ m.isConstructor = false := by
    simp [Constructor.member, Member.isConstructor]
  have hothers (d : Descriptor) : ∀ m ∈ (d.methods.map Method.member ++ (d.fields.getD []).map Field.member).head?,
      m.isConstructor = false := by
    intro m hm
    rcases List.mem_append.1 (List.mem_of_mem_head? hm) with hm | hm
    · obtain ⟨l, -, rfl⟩ := List.mem_map.1 hm
      rfl
    · obtain ⟨f, -, rfl⟩ := List.mem_map.1 hm
      rfl
  have hmethod (d : Descriptor) : ∀ m ∈ d.methods.map Method.member, ¬ m.isField = true := by
    simp [Method.member, Member.isField]
  have hfield (d : Descriptor) : ∀ m ∈ ((d.fields.getD []).map Field.member).head?, m.isField = true := by
    intro m hm
    obtain ⟨f, -, rfl⟩ := List.mem_map.1 (List.mem_of_mem_head? hm)
    rfl
  simp only [members, List.append_assoc] at h
  obtain ⟨hcs, hrest⟩ := split_unique (P := fun m => m.isConstructor = false) (hconstructor d) (hconstructor e)
    (hothers d) (hothers e) h
  obtain ⟨hms, hfs⟩ := split_unique (P := fun m => m.isField = true) (hmethod d) (hmethod e) (hfield d) (hfield e)
    hrest
  refine ⟨eq_of_map_eq ?_ hcs, eq_of_map_eq ?_ hms, eq_of_map_eq ?_ hfs⟩
  · exact fun b hb c hc => Constructor.member_inj (hd.constructors b hb) (he.constructors c hc)
  · exact fun l hl m hm => Method.member_inj (hd.methods l hl) (he.methods m hm)
  · exact fun f _ g _ => Field.member_inj

/-- **A class block tells its class.** -/
theorem blockLines_inj {d e : Descriptor} (hd : d.Plain) (he : e.Plain) (h : d.blockLines = e.blockLines) :
    d.name = e.name ∧ d.superClass = e.superClass ∧ d.members = e.members := by
  obtain ⟨hheader, hlines⟩ := List.cons.inj (List.append_cancel_right h)
  obtain ⟨hname, hparent⟩ := classHeader_inj hd.name he.name hheader
  refine ⟨hname, hparent, eq_of_map_eq ?_ hlines⟩
  exact fun m hm n hn hmn => Member.render_inj (hd.members m hm) (he.members n hn) (List.append_cancel_left hmn)

/-- a resolved descriptor has all its lists, so its parts make it up -/
theorem resolved_eq {d e : Descriptor} (hname : d.resolved.name = e.resolved.name)
    (hparent : d.resolved.superClass = e.resolved.superClass)
    (hconstructors : d.resolved.constructors.getD [] = e.resolved.constructors.getD [])
    (hmethods : d.resolved.methods = e.resolved.methods)
    (hfields : d.resolved.fields.getD [] = e.resolved.fields.getD []) : d.resolved = e.resolved := by
  simp only [resolved, Option.getD_some] at *
  simp [hname, hparent, hconstructors, hmethods, hfields]

theorem fileLines_inj {d e : Descriptor} (hd : d.Plain) (he : e.Plain) (h : d.fileLines = e.fileLines) :
    d.imports = e.imports ∧ d.resolved = e.resolved := by
  have hempty (d : Descriptor) : ∀ l ∈ (([] : Text) :: d.resolved.blockLines).head?, l = [] := by
    intro l hl
    cases hl
    rfl
  obtain ⟨himports, hblock⟩ := split_unique (P := (· = [])) (fun l hl => (hd.imports l hl).1)
    (fun l hl => (he.imports l hl).1) (hempty d) (hempty e) h
  obtain ⟨hname, hparent, hmembers⟩ := blockLines_inj hd.resolved he.resolved (List.tail_eq_of_cons_eq hblock)
  obtain ⟨hconstructors, hmethods, hfields⟩ := members_inj hd.resolved he.resolved hmembers
  exact ⟨himports, resolved_eq hname hparent hconstructors hmethods hfields⟩

/-- no name and no type has a mark in it, and every reference has a name behind its last dot -/
@[mk_iff]
structure Legible (d : Descriptor) : Prop extends d.Plain where
  named : ∀ name ∈ d.references, dangles name = false

instance (d : Descriptor) : Decidable d.Legible := decidable_of_iff _ d.legible_iff.symm

/-- **Words with dots between them** make a legible descriptor, wherever they stand. -/
theorem legible_of_dotted {d : Descriptor} (h : ∀ t ∈ d.texts, Dotted t) : d.Legible where
  toPlain := plain_iff_texts.2 fun t ht => (h t ht).unmarked
  named name hname := (h name (mem_texts_of_reference hname)).not_dangles

/-- **A declaration file loses nothing.** A legible descriptor has a file, and the lines before its first empty one are
the import statements; two have the same file exactly if they have the same import statements and the same class name,
superclass, constructors, methods and fields, types as they are written. -/
theorem declarationFile_eq_iff {d e : Descriptor} (hd : d.Legible) (he : e.Legible) :
    (∃ text, d.declarationFile = .ok text ∧ (Text.splitAt '\n' text).takeWhile (· ≠ []) = d.imports) ∧
      (d.declarationFile = e.declarationFile ↔ d.imports = e.imports ∧ d.resolved = e.resolved) := by
  have hfile {d : Descriptor} (hd : d.Legible) : d.declarationFile = .ok (Text.ofLines d.fileLines) := by
    have hok : outcome d.references = .ok () := outcome_eq_ok.2 hd.named
    rw [d.declarationFile_eq, hok]
    rfl
  have hlines := newline_not_mem_fileLines hd.toPlain
  refine ⟨⟨_, hfile hd, ?_⟩, ?_⟩
  · rw [Text.splitAt_ofLines hlines, fileLines, List.append_assoc, List.takeWhile_append_of_pos]
    · simp
    · exact fun l hl => by simpa using (hd.imports l hl).1
  · rw [hfile hd, hfile he]
    constructor
    · intro h
      exact fileLines_inj hd.toPlain he.toPlain
        (Text.ofLines_inj hlines (newline_not_mem_fileLines he.toPlain) (Except.ok.inj h))
    · rintro ⟨himports, hresolved⟩
      rw [fileLines, fileLines, himports, hresolved]

/-- a package before the class, one before `String` and absent lists do not show; a method called `constructor` is none
of the constructors -/
theorem declarationFile_eq_iff_dogs :
    let called (type : Text) : Method := ⟨"name", [⟨"loud", "boolean"⟩], type, true⟩
    let d : Descriptor := ⟨"zoo.Dog", some "zoo.Animal", none, [called "java.lang.String"], none⟩
    let e : Descriptor := ⟨"Dog", some "zoo.Animal", some [], [called "String"], some []⟩
    let f : Descriptor := ⟨"Dog", some "zoo.Animal", some [⟨[]⟩], [], none⟩
    let g : Descriptor := ⟨"Dog", some "zoo.Animal", none, [⟨"constructor", [], "Dog", false⟩], none⟩
    d.Legible ∧ e.Legible ∧ f.Legible ∧ g.Legible ∧ d.declarationFile = e.declarationFile ∧
      f.declarationFile ≠ g.declarationFile := by
  intro called d e f g
  have hd : d.Legible := legible_of_dotted (by decide)
  have he : e.Legible := legible_of_dotted (by decide)
  have hf : f.Legible := legible_of_dotted (by decide)
  have hg : g.Legible := legible_of_dotted (by decide)
  refine ⟨hd, he, hf, hg, (declarationFile_eq_iff hd he).2.2 ?_, fun h => ?_⟩
  · decide
  · obtain ⟨-, hresolved⟩ := (declarationFile_eq_iff hf hg).2.1 h
    exact absurd hresolved (by decide)

end Descriptor

end Typings
