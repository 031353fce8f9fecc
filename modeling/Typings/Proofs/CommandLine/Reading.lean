/-
Reading options: command lines that differ only in some options are read alike.

Where all options are switches, each word that is an option has an effect of its own, and the words behind it are read
as they would be without it.
- `Alike.bind`: computations that end alike go on alike.
- `read_option`: an option is read by itself.
- `read_alike`: options that are related stay related, whatever words are read.
- `Ignoring.read_alike`: they also do so where words that keep the relation are put in between.
-/
import Mathlib.Tactic
import Typings.CommandLine.Options

namespace Typings

/-! ## Alike -/

/-- two computations that end alike: with the same error, or with related results -/
inductive Alike {ε α β : Type} (R : α → β → Prop) : Except ε α → Except ε β → Prop
  | error (e : ε) : Alike R (.error e) (.error e)
  | ok {a : α} {b : β} (h : R a b) : Alike R (.ok a) (.ok b)

theorem Alike.bind {ε α β γ δ : Type} {R : α → β → Prop} {S : γ → δ → Prop} {x : Except ε α} {y : Except ε β}
    {f : α → Except ε γ} {g : β → Except ε δ} (h : Alike R x y) (hfg : ∀ a b, R a b → Alike S (f a) (g b)) :
    Alike S (x >>= f) (y >>= g) := by
  cases h with
  | error e => exact .error e
  | ok h => exact hfg _ _ h

namespace CommandLine.Rule

variable {α : Type} {rules : List (Rule α)} {R : α → α → Prop} {o o' : α} {word : Text} {words words' : List Text}

/-! ## One option -/

/-- options that take no values, each of which keeps a relation -/
def AreSwitches (R : α → α → Prop) (rules : List (Rule α)) : Prop :=
  ∀ r ∈ rules, ∃ name letter set, r = .switch name letter set ∧ ∀ o o', R o o' → R (set o) (set o')

/-- what one word does that is an option -/
def readOption (rules : List (Rule α)) (o : α) (word : Text) : Except Misuse α :=
  if !Text.startsWith word "--" then letters rules o (word.drop 1)
  else
    match find? rules (parts word).1, (parts word).2 with
    | some (.switch _ _ set), none => .ok (set o)
    | some (.switch name _ _), some _ => .error (.unexpectedValue name)
    | _, _ => .error (.unknownOption (parts word).1)

/-- a word that is an option and does not end the options -/
structure IsProper (word : Text) : Prop where
  option : isOption word = true
  ne_end : word ≠ ("--" : Text)

/-- **An option** is read by itself. -/
theorem read_option (hr : AreSwitches R rules) (h : IsProper word) (mixed : Bool) (o : α) (words : List Text) :
    read rules mixed o (word :: words) = (readOption rules o word).bind fun o => read rules mixed o words := by
  rw [read, if_neg h.ne_end, h.option]
  simp only [Bool.not_true, Bool.false_eq_true, if_false, readOption]
  split_ifs
  · cases letters rules o (word.drop 1) <;> rfl
  · cases hfind : find? rules (parts word).1 with
    | none => rfl
    | some r =>
      obtain ⟨name, letter, set, rfl, -⟩ := hr r (List.mem_of_find?_eq_some hfind)
      cases (parts word).2 <;> rfl

theorem letters_alike (hr : AreSwitches R rules) (h : R o o') (t : Text) :
    Alike R (letters rules o t) (letters rules o' t) := by
  induction t generalizing o o' with
  | nil => exact .ok h
  | cons c t ih =>
    simp only [letters]
    cases hc : letter? rules c with
    | none => exact .error _
    | some f =>
      obtain ⟨r, hmem, hr'⟩ := List.exists_of_findSome?_eq_some hc
      obtain ⟨name, letter, set, rfl, hkeeps⟩ := hr r hmem
      obtain ⟨-, rfl⟩ : letter = some c ∧ set = f := by simpa using hr'
      exact ih (hkeeps o o' h)

theorem readOption_alike (hr : AreSwitches R rules) (h : R o o') (word : Text) :
    Alike R (readOption rules o word) (readOption rules o' word) := by
  unfold readOption
  split_ifs
  · exact letters_alike hr h _
  · cases hfind : find? rules (parts word).1 with
    | none => exact .error _
    | some r =>
      obtain ⟨name, letter, set, rfl, hkeeps⟩ := hr r (List.mem_of_find?_eq_some hfind)
      cases (parts word).2 with
      | none => exact .ok (hkeeps o o' h)
      | some v => exact .error _

/-! ## Words -/

/-- readings that leave the same words, and related options -/
def Left (R : α → α → Prop) (x y : α × List Text) : Prop := R x.1 y.1 ∧ x.2 = y.2

/-- **Related options** stay related, whatever words are read. -/
theorem read_alike (hr : AreSwitches R rules) (h : R o o') (words : List Text) :
    Alike (Left R) (read rules false o words) (read rules false o' words) := by
  induction words generalizing o o' with
  | nil => exact .ok ⟨h, rfl⟩
  | cons word words ih =>
    by_cases hend : word = ("--" : Text)
    · rw [read, read, if_pos hend, if_pos hend]
      exact .ok ⟨h, rfl⟩
    · by_cases hoption : isOption word = true
      · rw [read_option hr ⟨hoption, hend⟩, read_option hr ⟨hoption, hend⟩]
        exact (readOption_alike hr h word).bind fun _ _ h => ih h
      · have hplain : isOption word = false := by simpa using hoption
        rw [read, read, if_neg hend, if_neg hend, hplain]
        exact .ok ⟨h, rfl⟩

/-- a word that is an option and keeps what counts -/
structure IsIdle (R : α → α → Prop) (rules : List (Rule α)) (word : Text) : Prop where
  proper : IsProper word
  idle : ∀ o, R o o → ∃ o', readOption rules o word = .ok o' ∧ R o o'

/-- command lines that differ only in idle words among the options in front -/
inductive Ignoring (idle : Text → Prop) : List Text → List Text → Prop
  | refl (words : List Text) : Ignoring idle words words
  | option {word : Text} {words words' : List Text} (hw : IsProper word) (h : Ignoring idle words words') :
      Ignoring idle (word :: words) (word :: words')
  | left {word : Text} {words words' : List Text} (hw : idle word) (h : Ignoring idle words words') :
      Ignoring idle (word :: words) words'
  | right {word : Text} {words words' : List Text} (hw : idle word) (h : Ignoring idle words words') :
      Ignoring idle words (word :: words')

/-- **Command lines that differ in idle words** are read alike. -/
theorem Ignoring.read_alike {idle : Text → Prop} (hr : AreSwitches R rules) (hs : ∀ {a b}, R a b → R b a)
    (ht : ∀ {a b c}, R a b → R b c → R a c) (hidle : ∀ word, idle word → IsIdle R rules word)
    (h : Ignoring idle words words') (ho : R o o') :
    Alike (Left R) (read rules false o words) (read rules false o' words') := by
  induction h generalizing o o' with
  | refl words => exact Rule.read_alike hr ho words
  | option hw _ ih =>
    rw [read_option hr hw, read_option hr hw]
    exact (readOption_alike hr ho _).bind fun _ _ h => ih h
  | left hw _ ih =>
    obtain ⟨o₁, hread, h₁⟩ := (hidle _ hw).idle o (ht ho (hs ho))
    rw [read_option hr (hidle _ hw).proper, hread]
    exact ih (ht (hs h₁) ho)
  | right hw _ ih =>
    obtain ⟨o₁, hread, h₁⟩ := (hidle _ hw).idle o' (ht (hs ho) ho)
    rw [read_option hr (hidle _ hw).proper, hread]
    exact ih (ht ho h₁)

end CommandLine.Rule
end Typings
