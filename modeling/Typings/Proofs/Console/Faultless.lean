/-
Markup without faults: what is escaped can be read.

A text with markup has a fault where a tag closes a look that no open tag has. What a console shows of a notice, and of
a cell of a table, is taken from the pieces of its markup with no thought of faults. None is lost that way.
- `text_eq_plain`: a text that can be read shows what its pieces show.
- `read_escape`: an escaped text can be read, and has no looks.
- `read_markup`: the markup of every notice can be read, whatever the words of the notice are.
-/
import Typings.Proofs.Console.Verbatim

namespace Typings

namespace Markup

variable {t u tag content name opening closing label first : Text} {rest : List Text} {ps : List Piece}
  {r r' : Reading} {o : Opened} {os : List Opened}

/-! ## What is read -/

theorem step_text {p : Piece} (h : r.step p = .ok r') : r'.text = r.text ++ p.text := by
  cases p with
  | shown t =>
    cases h
    rfl
  | tag content position =>
    -- whatever a tag does, it adds nothing to the text
    rw [Piece.text, List.append_nil]
    unfold Reading.step at h
    grind [Reading.close]

theorem foldlM_text (h : ps.foldlM Reading.step r = .ok r') : r'.text = r.text ++ ps.flatMap Piece.text := by
  induction ps generalizing r with
  | nil =>
    cases h
    simp
  | cons p ps ih =>
    rw [List.foldlM_cons] at h
    cases hp : r.step p with
    | error fault =>
      rw [hp] at h
      cases h
    | ok r₁ =>
      rw [hp] at h
      rw [ih h, step_text hp, List.flatMap_cons, List.append_assoc]

theorem finish_text (r : Reading) : r.finish.text = r.text := by
  have closed : ∀ (os : List Opened) (r : Reading), (os.foldl (fun r o => r.close o []) r).text = r.text := by
    intro os
    induction os with
    | nil => exact fun _ => rfl
    | cons o os ih => exact fun r => ih (r.close o [])
  exact closed r.opened r

/-- **A text that can be read** shows what its pieces show. -/
theorem text_eq_plain {s : Styled} (h : read t = .ok s) : s.text = plain t := by
  unfold read at h
  cases hr : (pieces t).foldlM Reading.step {} with
  | error fault =>
    rw [hr] at h
    cases h
  | ok r =>
    rw [hr] at h
    cases h
    rw [finish_text, foldlM_text hr]
    rfl

/-- pieces can be read on from a reading -/
def CanRead (r : Reading) (ps : List Piece) : Prop := ∃ r', ps.foldlM Reading.step r = .ok r'

theorem CanRead.read_eq (h : CanRead {} (pieces t)) : ∃ s : Styled, read t = .ok s ∧ s.text = plain t := by
  obtain ⟨r, hr⟩ := h
  have hread : read t = .ok r.finish := by
    rw [read, hr]
    rfl
  exact ⟨r.finish, hread, text_eq_plain hread⟩

theorem CanRead.cons {p : Piece} (hp : r.step p = .ok r') (h : CanRead r' ps) : CanRead r (p :: ps) := by
  obtain ⟨r'', hr⟩ := h
  refine ⟨r'', ?_⟩
  rw [List.foldlM_cons, hp]
  exact hr

/-- pieces without a tag only add to the text -/
theorem foldlM_tagless (h : Tagless ps) (r : Reading) :
    ps.foldlM Reading.step r = .ok { r with text := r.text ++ ps.flatMap Piece.text } := by
  induction ps generalizing r with
  | nil => simp [pure, Except.pure]
  | cons p ps ih =>
    obtain ⟨t, rfl⟩ := h p List.mem_cons_self
    rw [List.foldlM_cons]
    refine (ih (fun q hq => h q (List.mem_cons_of_mem _ hq)) _).trans ?_
    rw [List.flatMap_cons, ← List.append_assoc]
    rfl

theorem CanRead.append_tagless {qs : List Piece} (hps : Tagless ps)
    (h : CanRead { r with text := r.text ++ ps.flatMap Piece.text } qs) : CanRead r (ps ++ qs) := by
  obtain ⟨r', hr⟩ := h
  refine ⟨r', ?_⟩
  rw [List.foldlM_append, foldlM_tagless hps]
  exact hr

theorem canRead_of_tagless (h : Tagless ps) (r : Reading) : CanRead r ps := ⟨_, foldlM_tagless h r⟩

/-! ## The pieces of escaped texts -/

/-- the pieces of a text that stands at a position -/
def piecesAt (position : Nat) (t : Text) : List Piece :=
  match Text.splitAt '[' t with
  | [] => []
  | first :: rest => piecesFrom first (position + first.length) rest

theorem pieces_eq (t : Text) : pieces t = piecesAt 0 t := by
  obtain ⟨first, rest, ht⟩ := List.exists_cons_of_ne_nil (Text.splitAt_ne_nil '[' t)
  simp only [pieces, piecesAt, ht, Nat.zero_add]

theorem piecesAt_of (h : Text.splitAt '[' t = first :: rest) (position : Nat) :
    piecesAt position t = piecesFrom first (position + first.length) rest := by
  rw [piecesAt, h]

/-- a tag behind a text without brackets -/
theorem IsTag.piecesAt_append (h : IsTag tag content) (hu : CodePoint.ofChar '[' ∉ u) (hslash : trailing u = [])
    (t : Text) (position : Nat) : ∃ position', piecesAt position (u ++ tag ++ t) =
      .shown (showPlain u) :: .shown [] :: .tag content (position + u.length) :: piecesAt position' t := by
  obtain ⟨first, rest, ht⟩ := List.exists_cons_of_ne_nil (Text.splitAt_ne_nil '[' t)
  have hsplit : Text.splitAt '[' (u ++ tag ++ t) = u :: (content ++ "]" ++ first) :: rest := by
    rw [h.append_eq, Text.splitAt_append_sep, Text.splitAt_of_not_mem hu,
      Text.splitAt_append_of_not_mem h.bracket_not_mem ht]
    rfl
  have hall : withoutTrailing u = u := by
    have h := withoutTrailing_append u
    rwa [hslash, List.append_nil] at h
  have hlength : position + u.length + 1 + (content ++ "]" ++ first).length =
      position + u.length + 1 + (content ++ "]").length + first.length := by
    rw [List.length_append]
    omega
  refine ⟨position + u.length + 1 + (content ++ "]").length, ?_⟩
  rw [piecesAt_of hsplit, piecesFrom_of_tag (tag?_append_some h.read first), hslash, hall, piecesAt_of ht, hlength]
  rfl

theorem tagless_escape (t : Text) (position : Nat) : Tagless (piecesAt position (escape t)) := by
  obtain ⟨first, rest, ht⟩ := List.exists_cons_of_ne_nil (Text.splitAt_ne_nil '[' t)
  obtain ⟨shown, position', htagless, -, hpieces⟩ := piecesFrom_escaped (lone_slashes t)
    (rfl : trailing first = trailing first) (position + (first ++ guarding (lone t) first rest).length) rest []
  rw [List.append_nil] at hpieces
  rw [piecesAt_of (splitAt_escape ht), hpieces]
  intro p hp
  rcases List.mem_append.1 hp with hp | hp
  · exact htagless p hp
  · exact ⟨_, List.mem_singleton.1 hp⟩

/-- **An escaped text** can be read, and has no looks. -/
theorem read_escape (t : Text) : read (escape t) = .ok { text := plain (escape t) } := by
  have htagless : Tagless (pieces (escape t)) := pieces_eq (escape t) ▸ tagless_escape t 0
  rw [read, foldlM_tagless htagless]
  simp [Reading.finish, plain, Functor.map, Except.map]

/-! ## Looks that are opened and closed -/

/-- the name of a look, alone in a tag -/
def IsLook (name : Text) : Prop :=
  nameOf name = (name, none) ∧ nameOf ("/" ++ name) = ("/" ++ name, none) ∧ name.head? ≠ some (CodePoint.ofChar '/') ∧
    name ≠ [] ∧ Text.trimBlanks name = name

instance (name : Text) : Decidable (IsLook name) := inferInstanceAs (Decidable (_ ∧ _))

theorem IsLook.opens (h : IsLook name) (r : Reading) (position : Nat) :
    r.step (.tag name position) =
      .ok { r with opened := ⟨r.text.length, Look.usual name, none⟩ :: r.opened } := by
  obtain ⟨hname, -, hslash, hne, -⟩ := h
  cases name with
  | nil => exact absurd rfl hne
  | cons c name =>
    have hc : c ≠ CodePoint.ofChar '/' := fun hc => hslash (congrArg some hc)
    simp only [Reading.step, hname]
    rw [if_neg hc]

theorem IsLook.closes (h : IsLook name) (hr : r.opened = o :: os) (ho : o.name = Look.usual name) (position : Nat) :
    r.step (.tag ("/" ++ name) position) = .ok (r.close o os) := by
  obtain ⟨-, hname, -, hne, htrim⟩ := h
  have hcons : "/" ++ name = CodePoint.ofChar '/' :: name := rfl
  rw [hcons] at hname ⊢
  simp only [Reading.step, hname, if_true, htrim, hr, Reading.take?, ho]
  rw [if_neg (by simpa using hne)]

/-- an escaped text up to the tag that closes an open look -/
theorem canRead_closing (hlook : IsLook name) (hclosing : IsTag closing ("/" ++ name)) (hr : r.opened = o :: os)
    (ho : o.name = Look.usual name) (t : Text) (position : Nat) :
    CanRead r (piecesAt position (escape t ++ closing)) := by
  obtain ⟨first, rest, ht⟩ := List.exists_cons_of_ne_nil (Text.splitAt_ne_nil '[' t)
  obtain ⟨shown, position', htagless, -, hpieces⟩ := piecesFrom_escaped (lone_slashes t)
    (rfl : trailing first = trailing first) (position + (first ++ guarding (lone t) first rest).length) rest
    ["/" ++ name ++ "]"]
  rw [piecesAt_of (splitAt_escape_tag ht hclosing), hpieces, piecesFrom_of_tag hclosing.read]
  refine .append_tagless htagless (.cons rfl (.cons rfl ?_))
  have hend (r : Reading) (position : Nat) : CanRead r (piecesFrom [] position []) := .cons rfl ⟨_, rfl⟩
  have hclose (r : Reading) (hr : r.opened = o :: os) (position position' : Nat) :
      CanRead r (.tag ("/" ++ name) position :: piecesFrom [] position' []) :=
    .cons (hlook.closes hr ho position) (hend _ _)
  -- an odd backslash at the end makes the tag text, and then the look stays open
  split_ifs
  · exact .cons rfl (hend _ _)
  · refine hclose _ ?_ _ _
    exact hr

/-! ## Decorations -/

/-- **An escaped text between tags** can be read. -/
theorem exists_read_between (hlook : IsLook name) (hopening : IsTag opening name)
    (hclosing : IsTag closing ("/" ++ name)) (t : Text) :
    ∃ s : Styled, read (opening ++ escape t ++ closing) = .ok s ∧ s.text = plain (opening ++ escape t ++ closing) := by
  obtain ⟨position, hpieces⟩ := hopening.piecesAt_append (u := []) List.not_mem_nil rfl (escape t ++ closing) 0
  rw [List.nil_append, ← List.append_assoc, ← pieces_eq] at hpieces
  refine CanRead.read_eq ?_
  rw [hpieces]
  exact .cons rfl (.cons rfl (.cons (hlook.opens _ _) (canRead_closing hlook hclosing rfl rfl t position)))

/-- **An escaped text behind a label between tags** can be read. -/
theorem exists_read_labelled (hlook : IsLook name) (hopening : IsTag opening name)
    (hclosing : IsTag closing ("/" ++ name)) (hbracket : CodePoint.ofChar '[' ∉ label) (hslash : trailing label = [])
    (t : Text) : ∃ s : Styled, read (opening ++ label ++ closing ++ " " ++ escape t) = .ok s ∧
      s.text = plain (opening ++ label ++ closing ++ " " ++ escape t) := by
  have hwhole : opening ++ label ++ closing ++ " " ++ escape t =
      opening ++ (label ++ closing ++ escape (CodePoint.ofChar ' ' :: t)) := by
    rw [escape_blank]
    simp
  rw [hwhole]
  obtain ⟨position, hpieces⟩ := hopening.piecesAt_append (u := []) List.not_mem_nil rfl
    (label ++ closing ++ escape (CodePoint.ofChar ' ' :: t)) 0
  obtain ⟨position', hpieces'⟩ :=
    hclosing.piecesAt_append hbracket hslash (escape (CodePoint.ofChar ' ' :: t)) position
  rw [List.nil_append, ← pieces_eq, hpieces'] at hpieces
  refine CanRead.read_eq ?_
  rw [hpieces]
  refine .cons rfl (.cons rfl (.cons (hlook.opens _ _) ?_))
  refine .cons rfl (.cons rfl (.cons (hlook.closes rfl rfl _) ?_))
  exact canRead_of_tagless (tagless_escape _ _) _

end Markup

/-- **The markup of every notice can be read,** and shows what the console takes from its pieces. -/
theorem Notice.read_markup (n : Notice) :
    ∃ s : Styled, Markup.read n.markup = .ok s ∧ s.text = Markup.plain n.markup := by
  cases n with
  | info m => exact ⟨_, Markup.read_escape m, rfl⟩
  | success m =>
    have hopening : Markup.IsTag "[green]" "green" := .of (by decide)
    have hclosing : Markup.IsTag "[/green]" "/green" := .of (by decide)
    exact Markup.exists_read_between (by decide) hopening hclosing m
  | warning m =>
    have hopening : Markup.IsTag "[yellow]" "yellow" := .of (by decide)
    have hclosing : Markup.IsTag "[/yellow]" "/yellow" := .of (by decide)
    have hmarkup : (warning m).markup = "[yellow]" ++ "Warning:" ++ "[/yellow]" ++ " " ++ Markup.escape m :=
      congrArg (· ++ Markup.escape m) (by decide)
    rw [hmarkup]
    exact Markup.exists_read_labelled (by decide) hopening hclosing (by decide) (by decide) m
  | error m =>
    have hopening : Markup.IsTag "[bold red]" "bold red" := .of (by decide)
    have hclosing : Markup.IsTag "[/bold red]" "/bold red" := .of (by decide)
    have hmarkup : (error m).markup = "[bold red]" ++ "Error:" ++ "[/bold red]" ++ " " ++ Markup.escape m :=
      congrArg (· ++ Markup.escape m) (by decide)
    rw [hmarkup]
    exact Markup.exists_read_labelled (by decide) hopening hclosing (by decide) (by decide) m
  | debug m =>
    have hopening : Markup.IsTag "[dim]" "dim" := .of (by decide)
    have hclosing : Markup.IsTag "[/dim]" "/dim" := .of (by decide)
    exact Markup.exists_read_between (by decide) hopening hclosing ("[debug] " ++ m)
  | progress m =>
    have hopening : Markup.IsTag "[dim]" "dim" := .of (by decide)
    have hclosing : Markup.IsTag "[/dim]" "/dim" := .of (by decide)
    exact Markup.exists_read_between (by decide) hopening hclosing m

end Typings
