/-
Notices word for word: when colour leaves what is written as it is.

A bare notice is its words. A decorated one is escaped, put between tags, read and wrapped, and is written as the same
line only where escaping is undone exactly. For words of ASCII without names of pictures that fit a line, this is so
exactly for those that are `Kept`: no backslash before a bracket that opens no tag, and at the end no lone backslash,
or, before a closing tag, no more than one. The price of the decoration is said by the condition, and
`lone_slash_doubled` pays it.
- `plain_markup`: what a decorated notice shows, for each kind.
- `notice_eq_bare_iff`: what consoles with and without colour write.
-/
import Typings.Proofs.Console.Escape

namespace Typings

namespace Markup

variable {t u start stop label : Text}

/-! ## Words around -/

theorem splitAt_append_blank (hu : CodePoint.ofChar '[' ∉ u) {first : Text} {rest : List Text}
    (h : Text.splitAt '[' t = first :: rest) :
    Text.splitAt '[' (u ++ CodePoint.ofChar ' ' :: t) = (u ++ CodePoint.ofChar ' ' :: first) :: rest := by
  have hblank : CodePoint.ofChar '[' ∉ u ++ [CodePoint.ofChar ' '] := fun hm =>
    (List.mem_append.1 hm).elim hu (by decide)
  simpa using Text.splitAt_append_of_not_mem hblank h

/-- words and a blank in front do not matter -/
theorem keeps_append_blank (hu : CodePoint.ofChar '[' ∉ u) : Keeps (u ++ CodePoint.ofChar ' ' :: t) ↔ Keeps t := by
  obtain ⟨first, rest, ht⟩ := List.exists_cons_of_ne_nil (Text.splitAt_ne_nil '[' t)
  rw [keeps_iff (splitAt_append_blank hu ht), keeps_iff ht]
  exact isChain_congr (trailing_append_cons (by decide) u first) rest

/-- nor does a bracket at the beginning -/
theorem keeps_bracket : Keeps (CodePoint.ofChar '[' :: t) ↔ Keeps t :=
  (keeps_append_bracket List.not_mem_nil).trans (and_iff_right (Or.inr rfl))

theorem escape_blank (t : Text) : escape (CodePoint.ofChar ' ' :: t) = CodePoint.ofChar ' ' :: escape t := by
  obtain ⟨first, rest, ht⟩ := List.exists_cons_of_ne_nil (Text.splitAt_ne_nil '[' t)
  have htrailing : ∀ t : Text, trailing (CodePoint.ofChar ' ' :: t) = trailing t :=
    trailing_append_cons (by decide) []
  have hpieces : escapePieces (CodePoint.ofChar ' ' :: first) rest =
      CodePoint.ofChar ' ' :: escapePieces first rest := by
    cases rest with
    | nil => rfl
    | cons piece rest => simp [escapePieces, htrailing]
  have hsplit := splitAt_append_blank (u := []) (by decide) ht
  rw [List.nil_append] at hsplit
  rw [escape_eq hsplit, escape_eq ht, lone, lone, List.nil_append, htrailing, hpieces]
  rfl

/-- a text between tags shows as it is if it is kept, and at most one backslash ends it -/
theorem plain_between {opening closing : Text} (hopening : IsTag opening start) (hclosing : IsTag closing stop)
    (h : Simple t) :
    (plain (opening ++ escape t ++ closing) = t ↔ Keeps t ∧ (trailing t).length ≤ 1) ∧
      Near t (plain (opening ++ escape t ++ closing)) := by
  have hplain : plain (opening ++ escape t ++ closing) = plain (escape t ++ closing) := by
    have hnothing : showPlain [] = [] := by decide
    have hfirst := hopening.plain_append (u := []) (by decide) rfl (escape t ++ closing)
    rwa [hnothing, List.nil_append, List.nil_append, ← List.append_assoc] at hfirst
  rw [hplain]
  exact plain_escape_tag h hclosing

/-- a blank in front names no picture -/
theorem Simple.cons_blank (h : Simple t) : Simple (CodePoint.ofChar ' ' :: t) := by
  refine ⟨fun c hc => ?_, fun hcode => h.pictureless (hcode.of_append (a := [CodePoint.ofChar ' ']) (by decide))⟩
  rcases List.mem_cons.1 hc with rfl | hc
  · decide
  · exact h.printable c hc

/-- a text behind a label between tags shows as it is if it is kept, and not just one backslash ends it -/
theorem plain_labelled {opening closing : Text} (hopening : IsTag opening start) (hclosing : IsTag closing stop)
    (hbracket : CodePoint.ofChar '[' ∉ label) (hslash : trailing label = []) (hlabel : label.IsPrintable)
    (hshown : showPlain label = label) (h : Simple t) :
    (plain (opening ++ label ++ closing ++ " " ++ escape t) = label ++ " " ++ t ↔
      Keeps t ∧ (trailing t).length ≠ 1) ∧
      Near (label ++ " " ++ t) (plain (opening ++ label ++ closing ++ " " ++ escape t)) := by
  have hplain : plain (opening ++ label ++ closing ++ " " ++ escape t) =
      label ++ plain (escape (CodePoint.ofChar ' ' :: t)) := by
    have hnothing : showPlain [] = [] := by decide
    have hfirst := hopening.plain_append (u := []) (by decide) rfl (label ++ closing ++ (" " ++ escape t))
    rw [hclosing.plain_append hbracket hslash, hshown, hnothing, List.nil_append, List.nil_append] at hfirst
    rw [escape_blank]
    simp only [List.append_assoc] at hfirst ⊢
    exact hfirst
  have hblank : " " ++ t = CodePoint.ofChar ' ' :: t := rfl
  have hkeeps : Keeps (CodePoint.ofChar ' ' :: t) ↔ Keeps t := keeps_append_blank (u := []) (by decide)
  have htrailing : trailing (CodePoint.ofChar ' ' :: t) = trailing t := trailing_append_cons (by decide) [] t
  obtain ⟨hiff, hprintable, hlength⟩ := plain_escape h.cons_blank
  rw [hplain, List.append_assoc, hblank, List.append_right_inj, hiff, hkeeps, htrailing]
  refine ⟨Iff.rfl, hlabel.append hprintable, ?_⟩
  rcases hlength with hle | ⟨c, hlast, hsign⟩
  · exact Or.inl (by simpa using hle)
  · exact Or.inr ⟨c, by rw [List.getLast?_append, hlast]; rfl, hsign⟩

end Markup

/-! ## Notices -/

namespace Notice

/-- the words of a notice alone -/
def text : Notice → Text
  | .info m | .success m | .warning m | .error m | .debug m | .progress m => m

/-- colour leaves the words as they are: no backslash stands before a bracket that opens no tag, and not just one at
the end, or at most one where a tag follows -/
def Kept : Notice → Prop
  | .info m | .warning m | .error m => Markup.Keeps m ∧ (Markup.trailing m).length ≠ 1
  | .success m | .debug m | .progress m => Markup.Keeps m ∧ (Markup.trailing m).length ≤ 1

instance (n : Notice) : Decidable n.Kept := by
  cases n <;> exact inferInstanceAs (Decidable (_ ∧ _))

/-- the label of a debugging notice is escaped with its words, and does not matter to them -/
theorem debug_label {m : Text} (h : Markup.Simple m) :
    Markup.Simple ("[debug] " ++ m) ∧ (Markup.Keeps ("[debug] " ++ m) ↔ Markup.Keeps m) ∧
      Markup.trailing ("[debug] " ++ m) = Markup.trailing m := by
  have hwords : "[debug] " ++ m = CodePoint.ofChar '[' :: ("debug]" ++ CodePoint.ofChar ' ' :: m) := by simp
  refine ⟨⟨Text.IsPrintable.append (by decide) h.printable,
    fun hcode => h.pictureless (hcode.of_append (by decide))⟩, ?_, ?_⟩
  · rw [hwords, Markup.keeps_bracket, Markup.keeps_append_blank (by decide)]
  · rw [hwords, ← List.cons_append]
    exact Markup.trailing_append_cons (by decide) _ m

/-- **What a decorated notice shows** -/
theorem plain_markup (n : Notice) (h : Markup.Simple n.text) :
    (Markup.plain n.markup = n.message ↔ n.Kept) ∧ Markup.Near n.message (Markup.plain n.markup) := by
  cases n with
  | info m => exact Markup.plain_escape h
  | success m =>
    have hopening : Markup.IsTag "[green]" "green" := .of (by decide)
    have hclosing : Markup.IsTag "[/green]" "/green" := .of (by decide)
    exact Markup.plain_between hopening hclosing h
  | warning m =>
    have hopening : Markup.IsTag "[yellow]" "yellow" := .of (by decide)
    have hclosing : Markup.IsTag "[/yellow]" "/yellow" := .of (by decide)
    have hlabel : Text.IsPrintable "Warning:" := by decide
    have hshown : Markup.showPlain "Warning:" = "Warning:" := by decide
    have hmarkup : (warning m).markup = "[yellow]" ++ "Warning:" ++ "[/yellow]" ++ " " ++ Markup.escape m :=
      congrArg (· ++ Markup.escape m) (by decide)
    have hmessage : (warning m).message = "Warning:" ++ " " ++ m := congrArg (· ++ m) (by decide)
    rw [hmarkup, hmessage]
    exact Markup.plain_labelled hopening hclosing (by decide) (by decide) hlabel hshown h
  | error m =>
    have hopening : Markup.IsTag "[bold red]" "bold red" := .of (by decide)
    have hclosing : Markup.IsTag "[/bold red]" "/bold red" := .of (by decide)
    have hlabel : Text.IsPrintable "Error:" := by decide
    have hshown : Markup.showPlain "Error:" = "Error:" := by decide
    have hmarkup : (error m).markup = "[bold red]" ++ "Error:" ++ "[/bold red]" ++ " " ++ Markup.escape m :=
      congrArg (· ++ Markup.escape m) (by decide)
    have hmessage : (error m).message = "Error:" ++ " " ++ m := congrArg (· ++ m) (by decide)
    rw [hmarkup, hmessage]
    exact Markup.plain_labelled hopening hclosing (by decide) (by decide) hlabel hshown h
  | debug m =>
    have hopening : Markup.IsTag "[dim]" "dim" := .of (by decide)
    have hclosing : Markup.IsTag "[/dim]" "/dim" := .of (by decide)
    obtain ⟨hlabelled, hkeeps, htrailing⟩ := debug_label h
    have hbetween := Markup.plain_between hopening hclosing hlabelled
    rw [hkeeps, htrailing] at hbetween
    exact hbetween
  | progress m =>
    have hopening : Markup.IsTag "[dim]" "dim" := .of (by decide)
    have hclosing : Markup.IsTag "[/dim]" "/dim" := .of (by decide)
    exact Markup.plain_between hopening hclosing h

/-- the words of a notice with its label -/
theorem message_isPrintable {n : Notice} (h : n.text.IsPrintable) : n.message.IsPrintable := by
  cases n with
  | info m => exact h
  | success m => exact h
  | warning m => exact Text.IsPrintable.append (by decide) h
  | error m => exact Text.IsPrintable.append (by decide) h
  | debug m => exact Text.IsPrintable.append (by decide) h
  | progress m => exact h

end Notice

/-! ## Consoles -/

namespace Console

variable {c b : Console} {n : Notice}

/-- a console and the same one without colour; what format is the usual one depends on colour, but no notice does -/
structure Bare (c b : Console) : Prop where
  decorated : c.decorated = true
  bare : b.decorated = false
  quiet : b.quiet = c.quiet
  verbose : b.verbose = c.verbose
  watched : b.watched = c.watched

/-- without colour the options give the same console but for its looks -/
theorem bare_of_noColour {env : Environment} {watched : Bool} {o : Options} (h : Console.of env watched o = .ok c)
    (hdecorated : c.decorated = true) :
    ∃ b, Console.of env watched { o with noColour := true } = .ok b ∧ Bare c b := by
  simp only [Console.of, bind, Except.bind] at h ⊢
  cases hcolumns : dimension? env "COLUMNS" with
  | error e =>
    rw [hcolumns] at h
    cases h
  | ok columns =>
    cases hlines : dimension? env "LINES" with
    | error e =>
      rw [hcolumns, hlines] at h
      cases h
    | ok lines =>
      rw [hcolumns, hlines] at h
      cases h
      exact ⟨_, rfl, hdecorated, rfl, rfl, rfl, rfl⟩

theorem Bare.shows_eq (h : Bare c b) (n : Notice) : b.shows n = c.shows n := by
  cases n <;> simp [shows, h.quiet, h.verbose, h.watched]

/-- **Colour leaves the words of a notice as they are** exactly where escaping is undone: for a notice of ASCII
without names of pictures that fits a line, consoles with and without colour write the same if it is not shown at all,
or if it is kept. -/
theorem notice_eq_bare_iff (h : Bare c b) (hprintable : n.text.IsPrintable) (hpictures : ¬ Pictogram.HasCode n.text)
    (hfits : n.message.length ≤ c.width) :
    c.notice n = b.notice n ↔ c.shows n = false ∨ (0 < c.width ∧ n.Kept) := by
  have hmessage := Notice.message_isPrintable hprintable
  obtain ⟨hkept, hnear⟩ := n.plain_markup ⟨hprintable, hpictures⟩
  have hbare : b.written n = n.message ++ "\n" := by
    rw [written, if_neg (by simp [h.bare])]
    exact Utf8.escapeSurrogates_eq_self (Utf8.isEncodable_append.2 ⟨hmessage.isEncodable, by decide⟩)
  have hdecorated : c.written n = wrapped c.width n.markup := by
    rw [written, if_pos h.decorated]
    exact Utf8.escapeSurrogates_eq_self (isEncodable_wrapped c.width hnear.printable)
  rw [notice, notice, h.shows_eq, hbare, hdecorated]
  cases hshows : c.shows n with
  | false => simp
  | true =>
    simp only [if_true, Bool.true_eq_false, false_or]
    rcases Nat.eq_zero_or_pos c.width with hzero | hwidth
    · -- nothing is written where there are no columns
      rw [hzero]
      simp [wrapped]
    · have hend := hnear.length_or_end.imp_left fun hle => hle.trans hfits
      rw [wrapped_eq_iff hwidth hnear.printable hmessage hfits hend, hkept, and_iff_right hwidth]

/-- tags in the words, one behind a backslash, and a bracket that opens none -/
theorem notice_eq_bare_tags :
    ∃ c b, Console.of [] false {} = .ok c ∧ Console.of [] false { noColour := true } = .ok b ∧
      c.notice (.success "a\\b/{c}\\[/d] List[bold] [1]") = b.notice (.success "a\\b/{c}\\[/d] List[bold] [1]") := by
  obtain ⟨c, hc, hdecorated, hwidth⟩ : ∃ c, Console.of [] false {} = .ok c ∧ c.decorated = true ∧ c.width = 80 :=
    ⟨_, rfl, rfl, rfl⟩
  obtain ⟨b, hb, hbare⟩ := bare_of_noColour hc hdecorated
  refine ⟨c, b, hc, hb, (notice_eq_bare_iff hbare (by decide)
    (Pictogram.not_hasCode_of_not_mem (by decide)) ?_).2 (Or.inr ⟨?_, by decide⟩)⟩
  · rw [hwidth]
    decide
  · rw [hwidth]
    decide

/-- a lone backslash at the end is written twice, though it is printable, names no picture and fits -/
theorem lone_slash_doubled :
    ∃ c b, Console.of [] false {} = .ok c ∧ Console.of [] false { noColour := true } = .ok b ∧
      Text.IsPrintable (Notice.info "\\").text ∧ ¬ Pictogram.HasCode (Notice.info "\\").text ∧
      (Notice.info "\\").message.length ≤ c.width ∧
      b.notice (.info "\\") = "\\\n" ∧ c.notice (.info "\\") = "\\\\\n" :=
  ⟨_, _, rfl, rfl, by decide, Pictogram.not_hasCode_of_not_mem (by decide), by decide, by decide, by decide⟩

end Console
end Typings
