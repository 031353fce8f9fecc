/-
Escaped text: what it shows.

Escaping makes every tag text again, and reading the result gives the text back but for backslashes: one before a
bracket that opens no tag is lost, one at the end of all is doubled, and several before a tag that follows are halved.
- `readBack`: what an escaped text shows, by the pieces of the text itself. `piecesFrom_escaped`: it shows this, and has
  no tags.
- `plain_escape`, `plain_escape_tag`: so an escaped text shows as it is under the condition `Keeps` and one on the
  backslashes at its end, which depends on whether a tag follows.
-/
import Typings.Proofs.Console.Brackets
import Typings.Proofs.Console.Pictogram
import Typings.Proofs.Console.Wrap

namespace Typings.Markup

variable {t u before previous piece tag content after first : Text} {rest : List Text}

/-! ## Simple texts -/

/-- only signs of ASCII and blanks, and no name of a picture -/
structure Simple (t : Text) : Prop where
  printable : t.IsPrintable
  pictureless : ¬ Pictogram.HasCode t

theorem Simple.of_infix (h : Simple t) (hu : u <:+: t) : Simple u :=
  ⟨h.printable.of_subset hu.subset, fun hcode => h.pictureless (hcode.of_infix hu)⟩

/-- the parts of a simple text around a tag -/
theorem Simple.parts (h : Simple (before ++ tag ++ after)) :
    Simple (withoutTrailing before) ∧ Simple tag ∧ Simple after :=
  ⟨h.of_infix ((withoutTrailing_isPrefix before).trans
      ((List.prefix_append _ _).trans (List.prefix_append _ _))).isInfix,
    h.of_infix ⟨before, after, rfl⟩, h.of_infix (List.suffix_append _ _).isInfix⟩

/-- reading a simple text only takes backslashes away -/
theorem Simple.showPlain_eq (h : Simple t) : showPlain t = unescapeBrackets t := by
  have hpictureless : ¬ Pictogram.HasCode (unescapeBrackets t) := by
    rintro ⟨name, hcolon, hblank, hpicture, hinfix⟩
    have hbracket : CodePoint.ofChar '[' ∉ CodePoint.ofChar ':' :: (name ++ [CodePoint.ofChar ':']) := by
      rw [List.mem_cons, List.mem_append, List.mem_singleton]
      exact not_or.2 ⟨by decide, not_or.2 ⟨Pictogram.bracket_not_mem_of_picture hpicture, by decide⟩⟩
    exact h.pictureless ⟨name, hcolon, hblank, hpicture, infix_of_unescape hbracket hinfix⟩
  rw [showPlain, Pictogram.replace_eq_self hpictureless, List.filter_eq_self]
  intro c hc
  have hprintable := h.printable c ((unescape_sublist t).subset hc)
  simp only [isControl, Bool.not_eq_true', Bool.or_eq_false_iff, beq_eq_false_iff_ne]
  omega

theorem Simple.showPlain_sublist (h : Simple t) : (showPlain t).Sublist t :=
  h.showPlain_eq ▸ unescape_sublist t

/-- a backslash names no picture -/
theorem Simple.append_slash (h : Simple t) : Simple (t ++ "\\") := by
  refine ⟨fun c hc => ?_, ?_⟩
  · rcases List.mem_append.1 hc with hc | hc
    · exact h.printable c hc
    · obtain rfl : c = CodePoint.ofChar '\\' := by simpa using hc
      decide
  · rintro ⟨name, hcolon, hblank, hpicture, hinfix⟩
    rcases List.infix_concat_iff.1 hinfix with hsuffix | hinfix
    · rw [← List.cons_append, List.suffix_concat_iff] at hsuffix
      rcases hsuffix with hnil | ⟨_, heq, -⟩
      · exact absurd hnil (by simp)
      · exact absurd (List.append_inj_right' heq rfl) (by decide)
    · exact h.pictureless ⟨name, hcolon, hblank, hpicture, hinfix⟩

/-! ## Pieces -/

/-- pieces with brackets between them -/
def bracketed (before : Text) (rest : List Text) : Text := before ++ rest.flatMap fun p => ("[" : Text) ++ p

theorem bracketed_cons (before piece : Text) (rest : List Text) :
    bracketed before (piece :: rest) = bracketed (before ++ "[" ++ piece) rest := by
  simp [bracketed]

theorem bracketed_of_tag (h : tag? piece = some (content, after)) (before : Text) (rest : List Text) :
    bracketed before (piece :: rest) = before ++ ("[" ++ content ++ "]") ++ bracketed after rest := by
  simp [bracketed, tag?_eq_some h]

theorem bracketed_eq (h : Text.splitAt '[' t = first :: rest) : bracketed first rest = t := by
  rw [← Text.join_splitAt '[' t, h, Text.join_cons]
  rfl

/-! ## Reading -/

/-- what pieces with markup show, their looks left out -/
def plainFrom (before : Text) : List Text → Text
  | [] => showPlain before
  | piece :: rest =>
    match tag? piece with
    | none => plainFrom (before ++ "[" ++ piece) rest
    | some (content, after) =>
      let slashes := trailing before
      showPlain (withoutTrailing before) ++ slashes.take (slashes.length / 2) ++
        Text.only (slashes.length % 2 = 1) (showPlain ("[" ++ content ++ "]")) ++ plainFrom after rest

theorem plainFrom_of_no_tag (h : tag? piece = none) (before : Text) (rest : List Text) :
    plainFrom before (piece :: rest) = plainFrom (before ++ "[" ++ piece) rest := by
  rw [plainFrom, h]

theorem plainFrom_of_tag (h : tag? piece = some (content, after)) (before : Text) (rest : List Text) :
    plainFrom before (piece :: rest) =
      showPlain (withoutTrailing before) ++ (trailing before).take ((trailing before).length / 2) ++
        Text.only ((trailing before).length % 2 = 1) (showPlain ("[" ++ content ++ "]")) ++ plainFrom after rest := by
  rw [plainFrom, h]

theorem piecesFrom_of_no_tag (h : tag? piece = none) (before : Text) (position : Nat) (rest : List Text) :
    piecesFrom before position (piece :: rest) =
      piecesFrom (before ++ "[" ++ piece) (position + 1 + piece.length) rest := by
  rw [piecesFrom, h]

theorem piecesFrom_of_tag (h : tag? piece = some (content, after)) (before : Text) (position : Nat)
    (rest : List Text) : piecesFrom before position (piece :: rest) =
      .shown (showPlain (withoutTrailing before)) ::
        .shown ((trailing before).take ((trailing before).length / 2)) ::
        (if (trailing before).length % 2 = 1 then .shown (showPlain ("[" ++ content ++ "]"))
          else .tag content position) :: piecesFrom after (position + 1 + piece.length) rest := by
  rw [piecesFrom, h]
  rfl

theorem piecesFrom_plain (before : Text) (position : Nat) (rest : List Text) :
    (piecesFrom before position rest).flatMap Piece.text = plainFrom before rest := by
  induction rest generalizing before position with
  | nil => simp [piecesFrom, plainFrom, Piece.text]
  | cons piece rest ih =>
    cases htag : tag? piece with
    | none =>
      rw [plainFrom_of_no_tag htag, piecesFrom_of_no_tag htag]
      exact ih _ _
    | some tag =>
      obtain ⟨content, after⟩ := tag
      rw [plainFrom_of_tag htag, piecesFrom_of_tag htag]
      simp only [List.flatMap_cons, ih]
      by_cases hodd : (trailing before).length % 2 = 1 <;> simp [hodd, Text.only, Piece.text]

theorem plain_eq (h : Text.splitAt '[' t = first :: rest) : plain t = plainFrom first rest := by
  rw [plain, pieces, h]
  exact piecesFrom_plain first first.length rest

/-- a tag alone, and what stands between its brackets -/
structure IsTag (tag content : Text) : Prop where
  text : tag = "[" ++ content ++ "]"
  read : tag? (content ++ "]") = some (content, [])
  bracket : CodePoint.ofChar '[' ∉ content
  colon : CodePoint.ofChar ':' ∉ tag
  printable : tag.IsPrintable

theorem IsTag.of (h : tag = "[" ++ content ++ "]" ∧ tag? (content ++ "]") = some (content, []) ∧
    CodePoint.ofChar '[' ∉ content ∧ CodePoint.ofChar ':' ∉ tag ∧ tag.IsPrintable) : IsTag tag content :=
  ⟨h.1, h.2.1, h.2.2.1, h.2.2.2.1, h.2.2.2.2⟩

theorem IsTag.simple (h : IsTag tag content) : Simple tag :=
  ⟨h.printable, Pictogram.not_hasCode_of_not_mem h.colon⟩

theorem IsTag.bracket_not_mem (h : IsTag tag content) : CodePoint.ofChar '[' ∉ content ++ "]" := fun hm =>
  (List.mem_append.1 hm).elim h.bracket (by decide)

theorem IsTag.append_eq (h : IsTag tag content) (u t : Text) :
    u ++ tag ++ t = u ++ CodePoint.ofChar '[' :: (content ++ "]" ++ t) := by
  simp [h.text]

/-- **A tag** behind a text without brackets leaves the text as it is read alone, and what follows too. -/
theorem IsTag.plain_append (h : IsTag tag content) (hu : CodePoint.ofChar '[' ∉ u) (hslash : trailing u = [])
    (t : Text) : plain (u ++ tag ++ t) = showPlain u ++ plain t := by
  obtain ⟨first, rest, ht⟩ := List.exists_cons_of_ne_nil (Text.splitAt_ne_nil '[' t)
  have hsplit : Text.splitAt '[' (u ++ tag ++ t) = u :: (content ++ "]" ++ first) :: rest := by
    rw [h.append_eq, Text.splitAt_append_sep, Text.splitAt_of_not_mem hu,
      Text.splitAt_append_of_not_mem h.bracket_not_mem ht]
    rfl
  have hall : withoutTrailing u = u := by
    have h := withoutTrailing_append u
    rwa [hslash, List.append_nil] at h
  rw [plain_eq hsplit, plain_eq ht, plainFrom_of_tag (tag?_append_some h.read first), hslash, hall]
  simp [Text.only]

/-! ## Escaping -/

/-- what escaping puts before a bracket, by the piece before it and those behind it; `ending` stands at the end -/
def guarding (ending previous : Text) : List Text → Text
  | [] => ending
  | piece :: _ => Text.only (tag? piece).isSome (trailing previous ++ "\\")

/-- the pieces of an escaped text, but for the first -/
def escapedRest (ending : Text) : List Text → List Text
  | [] => []
  | piece :: rest => (piece ++ guarding ending piece rest) :: escapedRest ending rest

/-- what escaping puts at the end of a text -/
def lone (t : Text) : Text := Text.only ((trailing t).length = 1) "\\"

theorem guarding_slashes {ending : Text} (hending : ∀ c ∈ ending, c = CodePoint.ofChar '\\') (previous : Text)
    (rest : List Text) : ∀ c ∈ guarding ending previous rest, c = CodePoint.ofChar '\\' := by
  cases rest with
  | nil => exact hending
  | cons piece rest =>
    intro c hc
    rw [guarding, Text.only] at hc
    split_ifs at hc with htag
    · rcases List.mem_append.1 hc with hc | hc
      · simpa using List.mem_takeWhile_imp hc
      · simpa using hc
    · cases hc

theorem escapePieces_cons (ending previous piece : Text) (rest : List Text) :
    escapePieces previous (piece :: rest) =
      previous ++ guarding ending previous (piece :: rest) ++ CodePoint.ofChar '[' :: escapePieces piece rest := by
  rw [escapePieces, guarding, Text.only]
  split_ifs <;> simp

/-- the backslashes at the end are those of the text -/
theorem trailing_escapePieces (previous : Text) (rest : List Text) :
    trailing (escapePieces previous rest) = trailing (bracketed previous rest) := by
  induction rest generalizing previous with
  | nil => simp [escapePieces, bracketed]
  | cons piece rest ih =>
    have hbracket : CodePoint.ofChar '[' ≠ CodePoint.ofChar '\\' := by decide
    rw [escapePieces_cons [], trailing_append_cons hbracket, ih]
    exact (trailing_append_cons hbracket previous _).symm

theorem splitAt_escapePieces {ending : Text} (hending : ∀ c ∈ ending, c = CodePoint.ofChar '\\')
    (h : ∀ p ∈ previous :: rest, CodePoint.ofChar '[' ∉ p) :
    Text.splitAt '[' (escapePieces previous rest ++ ending) =
      (previous ++ guarding ending previous rest) :: escapedRest ending rest := by
  have hguard : ∀ rest {previous : Text}, CodePoint.ofChar '[' ∉ previous →
      CodePoint.ofChar '[' ∉ previous ++ guarding ending previous rest := fun rest _ hprevious hm =>
    (List.mem_append.1 hm).elim hprevious fun hm => absurd (guarding_slashes hending _ rest _ hm) (by decide)
  induction rest generalizing previous with
  | nil => exact Text.splitAt_of_not_mem (hguard [] (h _ List.mem_cons_self))
  | cons piece rest ih =>
    rw [escapePieces_cons ending, List.append_assoc, List.cons_append, Text.splitAt_append_sep,
      Text.splitAt_of_not_mem (hguard _ (h _ List.mem_cons_self)), ih fun p hp => h p (List.mem_cons_of_mem _ hp)]
    rfl

/-! ## Reading back -/

/-- what is shown of an escaped text up to its last tag, and what stands behind that, by the pieces of the text -/
def readBack (before : Text) : List Text → Text × Text
  | [] => ([], before)
  | piece :: rest =>
    match tag? piece with
    | none => readBack (before ++ "[" ++ piece) rest
    | some (content, after) =>
      let (shown, last) := readBack after rest
      (showPlain (withoutTrailing before) ++ trailing before ++ showPlain ("[" ++ content ++ "]") ++ shown, last)

theorem readBack_of_no_tag (h : tag? piece = none) (before : Text) (rest : List Text) :
    readBack before (piece :: rest) = readBack (before ++ "[" ++ piece) rest := by
  rw [readBack, h]

theorem readBack_of_tag (h : tag? piece = some (content, after)) (before : Text) (rest : List Text) :
    readBack before (piece :: rest) =
      (showPlain (withoutTrailing before) ++ trailing before ++ showPlain ("[" ++ content ++ "]") ++
        (readBack after rest).1, (readBack after rest).2) := by
  rw [readBack, h]

/-- backslashes before a tag and one more, twice as many as before, show as they were -/
theorem halved_guard (h : trailing before = trailing previous) :
    let doubled := before ++ (trailing previous ++ "\\")
    withoutTrailing doubled = withoutTrailing before ∧ (trailing doubled).length % 2 = 1 ∧
      (trailing doubled).take ((trailing doubled).length / 2) = trailing before := by
  have hslashes : trailing previous ++ "\\" =
      List.replicate ((trailing before).length + 1) (CodePoint.ofChar '\\') := by
    rw [← h, List.replicate_succ', ← trailing_eq_replicate]
    rfl
  have hcount : ((trailing before).length + 1 + (trailing before).length) / 2 = (trailing before).length := by omega
  intro doubled
  simp only [doubled, hslashes, trailing_append_slashes, List.length_append, List.length_replicate, hcount]
  refine ⟨withoutTrailing_append_slashes _ _, by omega, ?_⟩
  rw [List.take_append_of_le_length (by simp), List.take_replicate, Nat.min_eq_left (Nat.le_succ _),
    ← trailing_eq_replicate]

/-- pieces among which no tag is -/
def Tagless (ps : List Piece) : Prop := ∀ p ∈ ps, ∃ t, p = .shown t

/-- **An escaped text** has no tags and shows what `readBack` says, whatever follows. -/
theorem piecesFrom_escaped {ending : Text} (hending : ∀ c ∈ ending, c = CodePoint.ofChar '\\')
    (h : trailing before = trailing previous) (position : Nat) (rest more : List Text) :
    ∃ shown position', Tagless shown ∧ shown.flatMap Piece.text = (readBack before rest).1 ∧
      piecesFrom (before ++ guarding ending previous rest) position (escapedRest ending rest ++ more) =
        shown ++ piecesFrom ((readBack before rest).2 ++ ending) position' more := by
  induction rest generalizing before previous position with
  | nil => exact ⟨[], position, by simp [Tagless], rfl, rfl⟩
  | cons piece rest ih =>
    rw [escapedRest, List.cons_append]
    cases htag : tag? piece with
    | none =>
      have hescaped := tag?_append_none htag (guarding_slashes hending piece rest)
      have htrailing : trailing (before ++ "[" ++ piece) = trailing piece := by
        rw [List.append_assoc]
        exact trailing_append_cons (by decide) before piece
      have hguard : guarding ending previous (piece :: rest) = [] := by simp [guarding, htag, Text.only]
      rw [piecesFrom_of_no_tag hescaped, readBack_of_no_tag htag, hguard, List.append_nil, ← List.append_assoc]
      exact ih htrailing _
    | some tag =>
      obtain ⟨content, after⟩ := tag
      have hescaped := tag?_append_some htag (guarding ending piece rest)
      obtain ⟨hwithout, hodd, htake⟩ := halved_guard h
      have hguard : guarding ending previous (piece :: rest) = trailing previous ++ "\\" := by
        simp [guarding, htag, Text.only]
      obtain ⟨shown, position', htagless, hshown, hpieces⟩ := ih (trailing_of_tag htag).symm
        (position + 1 + (piece ++ guarding ending piece rest).length)
      rw [piecesFrom_of_tag hescaped, readBack_of_tag htag, hguard, hwithout, if_pos hodd, htake, hpieces]
      refine ⟨.shown (showPlain (withoutTrailing before)) :: .shown (trailing before) ::
        .shown (showPlain ("[" ++ content ++ "]")) :: shown, position', ?_, ?_, rfl⟩
      · simpa [Tagless] using htagless
      · simp [List.flatMap_cons, Piece.text, hshown]

theorem plainFrom_escaped {ending : Text} (hending : ∀ c ∈ ending, c = CodePoint.ofChar '\\')
    (h : trailing before = trailing previous) (rest more : List Text) :
    plainFrom (before ++ guarding ending previous rest) (escapedRest ending rest ++ more) =
      (readBack before rest).1 ++ plainFrom ((readBack before rest).2 ++ ending) more := by
  obtain ⟨shown, position', -, hshown, hpieces⟩ := piecesFrom_escaped hending h 0 rest more
  rw [← piecesFrom_plain _ 0, hpieces, List.flatMap_append, hshown, piecesFrom_plain]

/-! ## What is kept -/

/-- a bracket between two pieces that opens no tag has no backslash before it -/
def Unslashed (previous piece : Text) : Prop := (tag? piece).isSome = true ∨ trailing previous = []

instance (previous piece : Text) : Decidable (Unslashed previous piece) :=
  inferInstanceAs (Decidable ((tag? piece).isSome = true ∨ trailing previous = []))

/-- where a backslash stands before a bracket, the bracket opens a tag -/
def Keeps (t : Text) : Prop :=
  ∀ before behind : Text, t = before ++ "\\[" ++ behind →
    (tag? (behind.takeWhile fun c => c != CodePoint.ofChar '[')).isSome = true

/-- what a bracket adds to the condition -/
theorem keeps_append_bracket (hbefore : CodePoint.ofChar '[' ∉ before) :
    Keeps (before ++ CodePoint.ofChar '[' :: t) ↔
      Unslashed before (t.takeWhile fun c => c != CodePoint.ofChar '[') ∧ Keeps t := by
  constructor
  · intro h
    refine ⟨or_iff_not_imp_right.2 fun hslash => ?_, fun b behind ht => ?_⟩
    · obtain ⟨a, ha⟩ := List.getLast?_eq_some_iff.1 (not_not.1 fun hlast => hslash (trailing_eq_nil_iff.2 hlast))
      exact h a t (by simp [ha])
    · exact h (before ++ "[" ++ b) behind (by simp [ht])
  · rintro ⟨hslash, h⟩ a behind heq
    have heq : before ++ CodePoint.ofChar '[' :: t = a ++ CodePoint.ofChar '\\' :: CodePoint.ofChar '[' :: behind := by
      simpa using heq
    rcases List.append_eq_append_iff.1 heq with ⟨x, ha, hx⟩ | ⟨x, hb, hx⟩
    · -- behind the bracket
      cases x with
      | nil => exact absurd (List.cons.inj hx).1 (by decide)
      | cons c x => exact h x behind (by simpa using (List.cons.inj hx).2)
    · cases x with
      | nil => exact absurd (List.cons.inj hx).1 (by decide)
      | cons c x =>
        obtain ⟨hc, hx⟩ := List.cons.inj hx
        cases x with
        | nil =>
          -- at the bracket
          obtain ⟨-, rfl⟩ := List.cons.inj hx
          refine hslash.resolve_right fun hnil => trailing_eq_nil_iff.1 hnil ?_
          rw [hb, ← hc, List.getLast?_append]
          rfl
        | cons d x =>
          obtain ⟨rfl, -⟩ := List.cons.inj hx
          exact absurd (by simp [hb]) hbefore

theorem takeWhile_bracketed (h : CodePoint.ofChar '[' ∉ before) (rest : List Text) :
    (bracketed before rest).takeWhile (fun c => c != CodePoint.ofChar '[') = before := by
  have hall : ∀ c ∈ before, (c != CodePoint.ofChar '[') = true := fun c hc => by
    simpa using fun heq : c = CodePoint.ofChar '[' => h (heq ▸ hc)
  rw [bracketed, List.takeWhile_append_of_pos hall]
  cases rest with
  | nil => simp
  | cons piece rest => simp

/-- the condition by the pieces of a text -/
theorem keeps_iff (h : Text.splitAt '[' t = first :: rest) : Keeps t ↔ (first :: rest).IsChain Unslashed := by
  have hfree : ∀ p ∈ first :: rest, CodePoint.ofChar '[' ∉ p := fun p hp => Text.not_mem_of_mem_splitAt (h ▸ hp)
  rw [← bracketed_eq h]
  clear h
  induction rest generalizing first with
  | nil =>
    refine iff_of_true (fun a behind heq => ?_) (List.isChain_singleton first)
    rw [bracketed, List.flatMap_nil, List.append_nil] at heq
    exact absurd (by simp [heq]) (hfree first List.mem_cons_self)
  | cons piece rest ih =>
    have hmore : ∀ p ∈ piece :: rest, CodePoint.ofChar '[' ∉ p := fun p hp => hfree p (List.mem_cons_of_mem _ hp)
    have hjoined : bracketed first (piece :: rest) = first ++ CodePoint.ofChar '[' :: bracketed piece rest := by
      simp [bracketed]
    rw [hjoined, keeps_append_bracket (hfree first List.mem_cons_self),
      takeWhile_bracketed (hmore piece List.mem_cons_self), List.isChain_cons_cons]
    exact and_congr_right' (ih hmore)

instance (t : Text) : Decidable (Keeps t) :=
  decidable_of_iff ((Text.splitAt '[' t).IsChain Unslashed) <| by
    obtain ⟨first, rest, ht⟩ := List.exists_cons_of_ne_nil (Text.splitAt_ne_nil '[' t)
    rw [ht]
    exact (keeps_iff ht).symm

/-- what is known of a text that is read back: nothing but signs of it, and the same backslashes at the end -/
structure IsRead (t : Text) (r : Text × Text) : Prop where
  sublist : (r.1 ++ r.2).Sublist t
  suffix : r.2 <:+ t
  slashes : trailing r.2 = trailing t

theorem IsRead.sublist_unescaped {shown last : Text} (h : IsRead t (shown, last)) :
    (shown ++ unescapeBrackets last).Sublist t :=
  ((List.Sublist.refl shown).append (unescape_sublist last)).trans h.sublist

theorem readBack_isRead (h : Simple (bracketed before rest)) :
    IsRead (bracketed before rest) (readBack before rest) := by
  induction rest generalizing before with
  | nil =>
    have hall : bracketed before [] = before := List.append_nil before
    rw [hall]
    exact ⟨List.Sublist.refl _, List.suffix_refl _, rfl⟩
  | cons piece rest ih =>
    cases htag : tag? piece with
    | none =>
      rw [readBack_of_no_tag htag, bracketed_cons]
      rw [bracketed_cons] at h
      exact ih h
    | some tag =>
      obtain ⟨content, after⟩ := tag
      rw [bracketed_of_tag htag] at h ⊢
      rw [readBack_of_tag htag]
      obtain ⟨hwithout, hcontent, hbehind⟩ := h.parts
      have hrest := ih hbehind
      have hbefore : (showPlain (withoutTrailing before) ++ trailing before).Sublist before := by
        conv_rhs => rw [← withoutTrailing_append before]
        exact hwithout.showPlain_sublist.append_right (trailing before)
      refine ⟨?_, hrest.suffix.trans (List.suffix_append _ _), hrest.slashes.trans ?_⟩
      · rw [List.append_assoc _ _ (readBack after rest).2]
        exact (hbefore.append hcontent.showPlain_sublist).append hrest.sublist
      · have hclosed : before ++ ("[" ++ content ++ "]") ++ bracketed after rest =
            before ++ "[" ++ content ++ CodePoint.ofChar ']' :: bracketed after rest := by simp
        rw [hclosed, trailing_append_cons (by decide)]

/-- of two texts put together, none longer than what it is to be, both are what they are to be -/
theorem append_eq_append_iff {a b c d : Text} (ha : a.length ≤ c.length) (hb : b.length ≤ d.length) :
    a ++ b = c ++ d ↔ a = c ∧ b = d := by
  refine ⟨fun h => List.append_inj h ?_, fun h => by rw [h.1, h.2]⟩
  have hlength := congrArg List.length h
  rw [List.length_append, List.length_append] at hlength
  omega

theorem isChain_congr (h : trailing before = trailing previous) (rest : List Text) :
    (before :: rest).IsChain Unslashed ↔ (previous :: rest).IsChain Unslashed := by
  cases rest with
  | nil => simp
  | cons piece rest => simp [Unslashed, h]

/-- **A text is read back** as it is if no bracket that opens no tag has a backslash before it. -/
theorem readBack_eq_iff (h : Simple (bracketed before rest)) (hrest : ∀ p ∈ rest, CodePoint.ofChar '[' ∉ p) :
    (readBack before rest).1 ++ unescapeBrackets (readBack before rest).2 = bracketed before rest ↔
      unescapeBrackets before = before ∧ (before :: rest).IsChain Unslashed := by
  induction rest generalizing before with
  | nil => simp [readBack, bracketed]
  | cons piece rest ih =>
    have hmore : ∀ p ∈ rest, CodePoint.ofChar '[' ∉ p := fun p hp => hrest p (List.mem_cons_of_mem _ hp)
    have hpiece := hrest piece List.mem_cons_self
    rw [List.isChain_cons_cons]
    cases htag : tag? piece with
    | none =>
      have hjoined : before ++ "[" ++ piece = before ++ CodePoint.ofChar '[' :: piece := by simp
      have htrailing := trailing_append_cons (c := CodePoint.ofChar '[') (by decide) before piece
      rw [bracketed_cons] at h
      rw [readBack_of_no_tag htag, bracketed_cons, ih h hmore, hjoined, unescape_keeps_bracket hpiece,
        isChain_congr htrailing]
      simp [Unslashed, htag, and_assoc]
    | some tag =>
      obtain ⟨content, after⟩ := tag
      rw [bracketed_of_tag htag] at h ⊢
      rw [readBack_of_tag htag]
      obtain ⟨hbefore, htagged, hsuffix⟩ := h.parts
      have hfree : CodePoint.ofChar '[' ∉ content ++ "]" ∧ CodePoint.ofChar '[' ∉ after := by
        rw [tag?_eq_some htag] at hpiece
        simpa [not_or, and_assoc] using hpiece
      have hcontent : showPlain ("[" ++ content ++ "]") = "[" ++ content ++ "]" := by
        rw [htagged.showPlain_eq]
        exact unescape_bracket hfree.1
      have hsublist := (readBack_isRead hsuffix).sublist.length_le
      have hlast := (unescape_sublist (readBack after rest).2).length_le
      have hfirst := (unescape_sublist before).length_le
      rw [hbefore.showPlain_eq, ← unescape_trailing, hcontent, List.append_assoc _ (readBack after rest).1,
        append_eq_append_iff (by simpa using hfirst) (by simp at hsublist ⊢; omega), List.append_left_inj,
        ih hsuffix hmore, unescape_eq_self hfree.2, isChain_congr (trailing_of_tag htag)]
      simp [Unslashed, htag]

/-! ## What an escaped text shows -/

theorem lone_slashes (t : Text) : ∀ c ∈ lone t, c = CodePoint.ofChar '\\' := by
  intro c hc
  rw [lone, Text.only] at hc
  split_ifs at hc
  · simpa using hc
  · cases hc

theorem escape_eq (h : Text.splitAt '[' t = first :: rest) : escape t = escapePieces first rest ++ lone t := by
  have hlone : endsLone (escapePieces first rest) = decide ((trailing t).length = 1) := by
    rw [endsLone_eq, trailing_escapePieces, bracketed_eq h]
  rw [escape, h]
  simp only [hlone, lone, Text.only]
  split_ifs <;> simp

/-- the pieces of an escaped text -/
theorem splitAt_escape (h : Text.splitAt '[' t = first :: rest) :
    Text.splitAt '[' (escape t) = (first ++ guarding (lone t) first rest) :: escapedRest (lone t) rest := by
  rw [escape_eq h]
  exact splitAt_escapePieces (lone_slashes t) fun p hp => Text.not_mem_of_mem_splitAt (h ▸ hp)

/-- and with a tag behind it -/
theorem splitAt_escape_tag (h : Text.splitAt '[' t = first :: rest) (htag : IsTag tag content) :
    Text.splitAt '[' (escape t ++ tag) =
      (first ++ guarding (lone t) first rest) :: (escapedRest (lone t) rest ++ [content ++ "]"]) := by
  have hopened := htag.append_eq (escape t) []
  rw [List.append_nil, List.append_nil] at hopened
  rw [hopened, Text.splitAt_append_sep, splitAt_escape h, Text.splitAt_of_not_mem htag.bracket_not_mem]
  rfl

/-- a simple text and how it is read back -/
theorem exists_readBack (h : Simple t) :
    ∃ r : Text × Text, IsRead t r ∧ (r.1 ++ unescapeBrackets r.2 = t ↔ Keeps t) ∧
      plain (escape t) = r.1 ++ showPlain (r.2 ++ lone t) ∧
      ∀ tag content, IsTag tag content →
        plain (escape t ++ tag) = r.1 ++ plainFrom (r.2 ++ lone t) [content ++ "]"] := by
  obtain ⟨first, rest, ht⟩ := List.exists_cons_of_ne_nil (Text.splitAt_ne_nil '[' t)
  have hpieces : ∀ p ∈ first :: rest, CodePoint.ofChar '[' ∉ p := fun p hp =>
    Text.not_mem_of_mem_splitAt (ht ▸ hp)
  have hjoined := bracketed_eq ht
  refine ⟨readBack first rest, ?_, ?_, ?_, fun tag content htag => ?_⟩
  · exact hjoined ▸ readBack_isRead (hjoined.symm ▸ h)
  · have hiff := readBack_eq_iff (hjoined.symm ▸ h) fun p hp => hpieces p (List.mem_cons_of_mem _ hp)
    rwa [hjoined, and_iff_right (unescape_eq_self (hpieces first List.mem_cons_self)), ← keeps_iff ht] at hiff
  · have hread := plainFrom_escaped (lone_slashes t) (rfl : trailing first = trailing first) rest []
    rwa [List.append_nil, ← plain_eq (splitAt_escape ht)] at hread
  · have hread := plainFrom_escaped (lone_slashes t) (rfl : trailing first = trailing first) rest [content ++ "]"]
    rwa [← plain_eq (splitAt_escape_tag ht htag)] at hread

/-- signs of ASCII and blanks, no more than a text has or with a sign at the end -/
structure Near (t shown : Text) : Prop where
  printable : shown.IsPrintable
  length_or_end : shown.length ≤ t.length ∨ ∃ c, shown.getLast? = some c ∧ c.isBlank = false

/-- **An escaped text** shows as it is if no bracket that opens no tag has a backslash before it, and not just one
backslash ends it. -/
theorem plain_escape (h : Simple t) :
    (plain (escape t) = t ↔ Keeps t ∧ (trailing t).length ≠ 1) ∧ Near t (plain (escape t)) := by
  obtain ⟨⟨shown, last⟩, hread, hkeeps, hplain, -⟩ := exists_readBack h
  have hlast := h.of_infix hread.suffix.isInfix
  rw [hplain]
  by_cases hone : (trailing t).length = 1
  · -- two backslashes where there was one
    have hlone : lone t = "\\" := by rw [lone, hone]; rfl
    have htwo : shown ++ showPlain (last ++ lone t) =
        shown ++ unescapeBrackets (withoutTrailing last) ++ List.replicate 2 (CodePoint.ofChar '\\') := by
      rw [hlone, hlast.append_slash.showPlain_eq, unescape_append (Or.inr (by decide)), unescape_trailing last,
        trailing_eq_replicate last, hread.slashes, hone]
      simp [unescapeBrackets]
    refine ⟨iff_of_false (fun heq => ?_) fun hboth => hboth.2 hone, fun c hc => ?_, Or.inr ⟨'\\', ?_, by decide⟩⟩
    · have htrailing := congrArg (fun x => (trailing x).length) (htwo.symm.trans heq)
      simp only [trailing_append_slashes, List.length_append, List.length_replicate, hone] at htrailing
      omega
    · rcases List.mem_append.1 hc with hc | hc
      · exact h.printable c (hread.sublist.subset (List.mem_append_left _ hc))
      · rw [hlone] at hc
        exact hlast.append_slash.printable c (hlast.append_slash.showPlain_sublist.subset hc)
    · rw [htwo, List.getLast?_append]
      rfl
  · have hlone : lone t = [] := by rw [lone, Text.only, if_neg (by simpa using hone)]
    rw [hlone, List.append_nil, hlast.showPlain_eq, hkeeps, and_iff_left hone]
    exact ⟨Iff.rfl, h.printable.of_subset hread.sublist_unescaped.subset, Or.inl hread.sublist_unescaped.length_le⟩

/-- how many backslashes are at the end of an escaped text, by how many the text has there -/
def slashesFor (n : Nat) : Nat := if n = 1 then 2 else n

theorem slashesFor_of_le {n : Nat} (h : n ≤ 1) : slashesFor n / 2 = n ∧ ¬ slashesFor n % 2 = 1 := by
  unfold slashesFor
  split <;> omega

theorem slashesFor_of_lt {n : Nat} (h : 1 < n) : slashesFor n = n := if_neg (by omega)

theorem trailing_append_lone (h : trailing u = trailing t) :
    trailing (u ++ lone t) = List.replicate (slashesFor (trailing t).length) (CodePoint.ofChar '\\') ∧
      withoutTrailing (u ++ lone t) = withoutTrailing u := by
  have hlone : lone t = List.replicate (if (trailing t).length = 1 then 1 else 0) (CodePoint.ofChar '\\') := by
    rw [lone, Text.only]
    split_ifs <;> simp_all
  have hcount : (if (trailing t).length = 1 then 1 else 0) + (trailing t).length =
      slashesFor (trailing t).length := by
    unfold slashesFor
    split <;> omega
  rw [hlone, trailing_append_slashes, withoutTrailing_append_slashes, h, ← hcount, ← List.replicate_append_replicate,
    ← trailing_eq_replicate]
  exact ⟨rfl, rfl⟩

/-- what the last part of an escaped text shows before a tag: half its backslashes, and the tag if they are odd -/
theorem plainFrom_lone {last : Text} (h : Simple last) (ht : trailing last = trailing t) (htag : IsTag tag content) :
    plainFrom (last ++ lone t) [content ++ "]"] =
      unescapeBrackets (withoutTrailing last) ++
        List.replicate (slashesFor (trailing t).length / 2) (CodePoint.ofChar '\\') ++
        Text.only (slashesFor (trailing t).length % 2 = 1) tag := by
  obtain ⟨hslashes, hwithout⟩ := trailing_append_lone ht
  have hshown : showPlain ("[" ++ content ++ "]") = tag := by
    rw [← htag.text, htag.simple.showPlain_eq, htag.text]
    exact unescape_bracket htag.bracket_not_mem
  have hend : plainFrom [] [] = [] := by decide
  rw [plainFrom_of_tag htag.read, hslashes, hwithout, hshown, hend,
    (h.of_infix (withoutTrailing_isPrefix last).isInfix).showPlain_eq, List.append_nil, List.length_replicate,
    List.take_replicate, Nat.min_eq_left (Nat.div_le_self _ _)]

/-- of more than one backslash before a tag half are lost, and where they are odd the tag is shown behind them -/
theorem halved_ne {shown last : Text} (h : Simple t) (hread : IsRead t (shown, last)) (htag : IsTag tag content)
    (hmany : 1 < (trailing t).length) :
    let halved := shown ++ (unescapeBrackets (withoutTrailing last) ++
      List.replicate ((trailing t).length / 2) (CodePoint.ofChar '\\') ++ Text.only ((trailing t).length % 2 = 1) tag)
    halved ≠ t ∧ Near t halved := by
  have hall := hread.sublist_unescaped
  rw [unescape_trailing last, trailing_eq_replicate last, hread.slashes, ← List.append_assoc] at hall
  have hhalf : (List.replicate ((trailing t).length / 2) (CodePoint.ofChar '\\')).Sublist
      (List.replicate (trailing t).length (CodePoint.ofChar '\\')) :=
    List.replicate_sublist_iff.2 (by simpa using Nat.div_le_self _ 2)
  have hcut := ((List.Sublist.refl (shown ++ unescapeBrackets (withoutTrailing last))).append hhalf).trans hall
  have hprintable := h.printable.of_subset hcut.subset
  rw [← List.append_assoc, ← List.append_assoc]
  intro halved
  rcases Nat.mod_two_eq_zero_or_one (trailing t).length with heven | hodd
  · have hhalved : halved = shown ++ unescapeBrackets (withoutTrailing last) ++
        List.replicate ((trailing t).length / 2) (CodePoint.ofChar '\\') := by
      simp [halved, heven, Text.only]
    rw [hhalved]
    refine ⟨fun heq => ?_, hprintable, Or.inl hcut.length_le⟩
    have hlength := hall.length_le
    have hsame := congrArg List.length heq
    simp only [List.length_append, List.length_replicate] at hsame hlength
    omega
  · have hend : halved.getLast? = some (CodePoint.ofChar ']') := by
      simp only [halved, hodd, Text.only, decide_true, if_true, htag.text, ← List.append_assoc]
      exact List.getLast?_concat
    refine ⟨fun heq => ?_, ?_, Or.inr ⟨']', hend, by decide⟩⟩
    · have hslash := mt trailing_eq_nil_iff.2 (List.ne_nil_of_length_pos (Nat.lt_trans Nat.zero_lt_one hmany))
      rw [← heq, hend] at hslash
      exact hslash (by decide)
    · simp only [halved, hodd, Text.only, decide_true, if_true]
      exact hprintable.append htag.printable

/-- **A tag behind an escaped text** leaves it as it is if no bracket that opens no tag has a backslash before it,
and at most one backslash ends it. -/
theorem plain_escape_tag (h : Simple t) (htag : IsTag tag content) :
    (plain (escape t ++ tag) = t ↔ Keeps t ∧ (trailing t).length ≤ 1) ∧ Near t (plain (escape t ++ tag)) := by
  obtain ⟨⟨shown, last⟩, hread, hkeeps, -, hplain⟩ := exists_readBack h
  have hlast := plainFrom_lone (h.of_infix hread.suffix.isInfix) hread.slashes htag
  rw [hplain tag content htag, hlast]
  rcases Nat.lt_or_ge 1 (trailing t).length with hmany | hfew
  · rw [slashesFor_of_lt hmany]
    obtain ⟨hne, hnear⟩ := halved_ne h hread htag hmany
    exact ⟨iff_of_false hne fun hboth => absurd hboth.2 (Nat.not_le_of_gt hmany), hnear⟩
  · -- a lone backslash is doubled and halved again
    obtain ⟨hhalf, heven⟩ := slashesFor_of_le hfew
    have hslashes : List.replicate (trailing t).length (CodePoint.ofChar '\\') = trailing last := by
      rw [← hread.slashes, ← trailing_eq_replicate]
    rw [hhalf, Text.only, if_neg (by simpa using heven), List.append_nil, hslashes, ← unescape_trailing, hkeeps,
      and_iff_left hfew]
    exact ⟨Iff.rfl, h.printable.of_subset hread.sublist_unescaped.subset, Or.inl hread.sublist_unescaped.length_le⟩

end Typings.Markup
