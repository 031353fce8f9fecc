/-
Refusals: the scalars that have no value by their tag, and on which the reading of YAML crashes.

`Refused` lists the tags and the texts, by the spelling of words and numbers and by the calendar.
- `Numeral.integer_refuses_iff`, `Date.make_refuses_iff`, `DateTime.make_refuses_iff`: numerals, days and moments.
- `bool_refuses_iff`, `int_refuses_iff`, `magnitude_refuses_iff`, `timestamp_refuses_iff`: what each tag refuses.
- `spelled_refuses_iff`: a text has no value by a tag exactly where it is refused.
-/
import Mathlib.Data.List.TakeWhile
import Mathlib.Tactic.Common
import Typings.Proofs.Text.Pieces
import Typings.Yaml.Scalar

namespace Typings

/-! ## Refusals -/

/-- a computation that gives no value -/
def Refuses {ε α : Type} (x : Except ε α) : Prop := ∃ e, x = .error e

section

variable {ε δ α β : Type}

@[simp] theorem refuses_error (e : ε) : Refuses (.error e : Except ε α) := ⟨e, rfl⟩

@[simp] theorem not_refuses_ok (a : α) : ¬ Refuses (.ok a : Except ε α) := by simp [Refuses]

instance : (x : Except ε α) → Decidable (Refuses x)
  | .error e => .isTrue ⟨e, rfl⟩
  | .ok a => .isFalse (not_refuses_ok a)

theorem refuses_or_ok (x : Except ε α) : Refuses x ∨ ∃ a, x = .ok a := by
  cases x with
  | error e => exact Or.inl ⟨e, rfl⟩
  | ok a => exact Or.inr ⟨a, rfl⟩

@[simp] theorem refuses_map (f : α → β) (x : Except ε α) : Refuses (f <$> x) ↔ Refuses x := by
  cases x <;> simp [Refuses, Functor.map, Except.map]

@[simp] theorem refuses_mapError (f : ε → δ) (x : Except ε α) : Refuses (x.mapError f) ↔ Refuses x := by
  cases x <;> simp [Refuses, Except.mapError]

theorem refuses_bind (x : Except ε α) (f : α → Except ε β) :
    Refuses (x >>= f) ↔ Refuses x ∨ ∃ a, x = .ok a ∧ Refuses (f a) := by
  cases x <;> simp [Refuses, bind, Except.bind]

/-- a list of computations gives no values if one of them gives none -/
theorem refuses_mapM (f : α → Except ε β) (xs : List α) : Refuses (xs.mapM f) ↔ ∃ x ∈ xs, Refuses (f x) := by
  induction xs with
  | nil => simp [pure, Except.pure]
  | cons x xs ih =>
    rw [List.mapM_cons, refuses_bind]
    simp only [refuses_bind, ih, List.mem_cons, exists_eq_or_imp]
    rcases refuses_or_ok (f x) with hx | ⟨a, hx⟩
    · simp [hx]
    · simp [hx, pure, Except.pure]

theorem length_of_mapM {f : α → Except ε β} {xs : List α} {ys : List β} (h : xs.mapM f = .ok ys) :
    ys.length = xs.length := by
  induction xs generalizing ys with
  | nil =>
    cases h
    rfl
  | cons x xs ih =>
    rw [List.mapM_cons] at h
    cases hx : f x with
    | error e => simp [hx, bind, Except.bind] at h
    | ok y =>
      cases hxs : xs.mapM f with
      | error e => simp [hx, hxs, bind, Except.bind] at h
      | ok zs =>
        obtain rfl : y :: zs = ys := by simpa [hx, hxs, bind, Except.bind, pure, Except.pure] using h
        simp [ih hxs]

end

/-! ## The calendar -/

namespace Calendar

/-- the numbers of a day of the calendar -/
structure IsDay (y m d : Nat) : Prop where
  year : 1 ≤ y ∧ y ≤ 9999
  month : 1 ≤ m ∧ m ≤ 12
  day : 1 ≤ d ∧ d ≤ daysInMonth y m

/-- the numbers of a time of day, on a clock that is less than a day ahead or behind -/
@[mk_iff]
structure IsTime (h m s : Nat) (ahead : Option Int) : Prop where
  hour : h ≤ 23
  minute : m ≤ 59
  second : s ≤ 59
  offset : ∀ n, ahead = some n → -(daySeconds : Int) < n ∧ n < daySeconds

end Calendar

open Calendar

theorem Date.make_refuses_iff (year month day : Nat) : Refuses (Date.make year month day) ↔ ¬ IsDay year month day := by
  unfold Date.make
  split_ifs with hyear hmonth hday
  · exact iff_of_true ⟨_, rfl⟩ fun h => by have := h.year; omega
  · exact iff_of_true ⟨_, rfl⟩ fun h => by have := h.month; omega
  · exact iff_of_true ⟨_, rfl⟩ fun h => by have := h.day; omega
  · exact iff_of_false (not_refuses_ok _) (not_not.2 ⟨by omega, by omega, by omega⟩)

theorem DateTime.make_refuses_iff (year month day hour minute second micro : Nat) (offset : Option Int) :
    Refuses (DateTime.make year month day hour minute second micro offset) ↔
      ¬ (IsDay year month day ∧ IsTime hour minute second offset) := by
  have hguard : ∀ {c : Prop} [Decidable c] {fault : Fault} {α : Type} {k : α → Except Fault DateTime}
      {y : Except Fault DateTime}, Refuses (if c then throw fault >>= k else y) ↔ c ∨ Refuses y := by
    intro c _ fault α k y
    by_cases h : c <;> simp [h, throw, throwThe, MonadExceptOf.throw, bind, Except.bind]
  have hmake : ∀ t : DateTime, ¬ Refuses (pure t : Except Fault DateTime) := not_refuses_ok
  have hdate : Refuses (Date.make year month day) ↔ ¬ IsDay year month day := Date.make_refuses_iff ..
  unfold DateTime.make
  rcases refuses_or_ok (Date.make year month day) with hd | ⟨date, hd⟩
  · have hday := hdate.1 hd
    refine iff_of_true ?_ fun h => hday h.1
    cases offset <;> simp [hguard, refuses_bind, hd]
  · have hday : IsDay year month day := by simpa [hd] using hdate
    cases offset with
    | none =>
      simp only [hguard, hmake, refuses_bind, hd, not_refuses_ok, false_or, or_false, Except.ok.injEq,
        exists_eq_left', hday, isTime_iff, true_and, reduceCtorEq, false_implies, implies_true, and_true]
      omega
    | some n =>
      simp only [hguard, hmake, refuses_bind, hd, not_refuses_ok, false_or, or_false, Except.ok.injEq,
        exists_eq_left', hday, isTime_iff, true_and, Option.some.injEq, forall_eq']
      omega

/-! ## Numerals -/

theorem Text.toNatBase?_eq_none_iff (base : Nat) (t : Text) :
    toNatBase? base t = none ↔ ∃ c ∈ t, Numeral.isDigit base c = false := by
  unfold toNatBase?
  generalize hstep : (fun (n : Option Nat) (c : CodePoint) => _) = step
  have step_iff (n : Option Nat) (c : CodePoint) : step n c = none ↔ n = none ∨ Numeral.isDigit base c = false := by
    rw [← hstep, Numeral.isDigit]
    cases n <;> cases h : c.hexValue? <;> simp [h]
  have fold_iff (t : Text) (n : Option Nat) :
      t.foldl step n = none ↔ n = none ∨ ∃ c ∈ t, Numeral.isDigit base c = false := by
    induction t generalizing n with
    | nil => simp
    | cons c t ih => simp [ih, step_iff, or_assoc]
  simpa using fold_iff t (some 0)

namespace Numeral

/-- what a numeral has for digits: what stands behind its sign and the letter of its base -/
def digitsOf (base : Nat) (t : Text) : Text := withoutBase base (signed t.trim.asciiDigits).2

/-- a numeral is refused for want of digits, for what is no digit, and for too many digits -/
theorem integer_refuses_iff (base : Nat) (t : Text) : Refuses (integer base t) ↔ digitsOf base t = [] ∨
    (∃ c ∈ digitsOf base t, isDigit base c = false) ∨ (base = 10 ∧ Json.digitLimit < (digitsOf base t).length) := by
  unfold integer digitsOf
  obtain ⟨negative, u⟩ := signed t.trim.asciiDigits
  dsimp only
  generalize withoutBase base u = digits
  rw [← Text.toNatBase?_eq_none_iff]
  by_cases hall : ∃ c ∈ digits, isDigit base c = false
  · have hnone := (Text.toNatBase?_eq_none_iff base digits).2 hall
    simp only [hnone, true_or, or_true, iff_true]
    split_ifs <;> simp
  · have hcount : digits.takeWhile (isDigit base) = digits := by
      rw [List.takeWhile_eq_self_iff]
      simpa using hall
    obtain ⟨n, hn⟩ := Option.ne_none_iff_exists'.1 (mt (Text.toNatBase?_eq_none_iff base digits).1 hall)
    simp only [hcount, hn, reduceCtorEq, false_or]
    by_cases hlong : base = 10 ∧ Json.digitLimit < digits.length
    · simp [hlong]
    by_cases hempty : digits = []
    · simp [hempty, Json.digitLimit]
    · simp [hlong, hempty]

end Numeral

namespace Yaml

/-- a moment that is on the calendar, with a time of day if it has one -/
def Spelling.Moment.Exists (m : Spelling.Moment) : Prop :=
  IsDay (Text.toNat m.year) (Text.toNat m.month) (Text.toNat m.day) ∧
    ∀ hour minute second fraction, m.time = some (hour, minute, second, fraction) →
      IsTime (Text.toNat hour) (Text.toNat minute) (Text.toNat second) (m.zone.map Scalar.zoneOffset)

namespace Scalar

/-! ## Truth values and moments -/

theorem bool_refuses_iff (t : Text) : Refuses (bool t) ↔ Text.lower t ∉ truths.map Prod.fst := by
  have hnone : truths.lookup (Text.lower t) = none ↔ Text.lower t ∉ truths.map Prod.fst := by
    rw [List.lookup_eq_none_iff, List.mem_map]
    constructor
    · rintro h ⟨e, he, hword⟩
      exact absurd hword.symm (by simpa using h e he)
    · intro h e he
      simpa using fun hword => h ⟨e, he, Eq.symm hword⟩
  rw [bool, ← hnone]
  cases truths.lookup (Text.lower t) <;> simp

theorem onCalendar_refuses_iff (m : Spelling.Moment) : Refuses (onCalendar m) ↔ ¬ m.Exists := by
  unfold onCalendar Spelling.Moment.Exists
  cases ht : m.time with
  | none => simp [Date.make_refuses_iff]
  | some time =>
    obtain ⟨hour, minute, second, fraction⟩ := time
    simp [DateTime.make_refuses_iff]

theorem timestamp_refuses_iff (t : Text) : Refuses (timestamp t) ↔
    ∀ m, (Spelling.moment? t).or (Spelling.moment? (Spelling.withoutLineFeed t)) = some m → ¬ m.Exists := by
  unfold timestamp
  cases (Spelling.moment? t).or (Spelling.moment? (Spelling.withoutLineFeed t)) with
  | none => simp
  | some m => simp [onCalendar_refuses_iff]

/-! ## Numbers -/

theorem signOf_eq (t : Text) : signOf t =
    if t = [] then .error .empty else .ok (t.head? = some (CodePoint.ofChar '-'), Spelling.unsigned t) := by
  cases t with
  | nil => rfl
  | cons c r => simp [signOf, firstOf, bind, Except.bind, pure, Except.pure]

theorem int_refuses_iff (t : Text) : Refuses (int t) ↔ Spelling.unsigned (withoutUnderscores t) = [] ∨
    ∃ base part, (base, part) ∈ numerals (Spelling.unsigned (withoutUnderscores t)) ∧
      Refuses (Numeral.integer base part) := by
  rw [int, refuses_bind, signOf_eq]
  by_cases ht : withoutUnderscores t = []
  · simp [ht, Spelling.unsigned]
  · simp only [ht, if_false, not_refuses_ok, false_or, Except.ok.injEq, exists_eq_left']
    generalize Spelling.unsigned (withoutUnderscores t) = u
    cases u with
    | nil => simp [firstOf, refuses_bind]
    | cons c u =>
      have hsign : ∀ (n : Int), ¬ Refuses (pure n : Except Fault Int) := not_refuses_ok
      simp only [firstOf, refuses_bind, refuses_mapM, integer, refuses_mapError, Prod.exists, hsign, and_false,
        exists_false, or_false, not_refuses_ok, false_or, Except.ok.injEq, exists_eq_left', reduceCtorEq]

theorem sixtieths_refuses_iff (ds : List Binary64) (sum : Binary64) (base : Nat) :
    Refuses (sixtieths sum base ds) ↔ ∃ k < ds.length, Refuses (weight (base * 60 ^ k)) := by
  induction ds generalizing sum base with
  | nil => simp [sixtieths]
  | cons d ds ih =>
    have hsplit : (∃ k < (d :: ds).length, Refuses (weight (base * 60 ^ k))) ↔
        Refuses (weight base) ∨ ∃ k < ds.length, Refuses (weight (base * 60 * 60 ^ k)) := by
      constructor
      · rintro ⟨_ | k, hk, h⟩
        · exact Or.inl (by simpa using h)
        · exact Or.inr ⟨k, by simpa using hk, by rwa [Nat.mul_assoc, ← Nat.pow_succ']⟩
      · rintro (h | ⟨k, hk, h⟩)
        · exact ⟨0, by simp, by simpa using h⟩
        · exact ⟨k + 1, by simpa using hk, by rwa [Nat.pow_succ', ← Nat.mul_assoc]⟩
    rw [sixtieths, refuses_bind, hsplit]
    simp only [ih]
    rcases refuses_or_ok (weight base) with h | ⟨a, h⟩
    · simp [h]
    · simp [h]

/-- the weights up to the 174th part are numbers -/
theorem weight_sixty_refuses_iff (n : Nat) : (∃ k < n, Refuses (weight (60 ^ k))) ↔ 174 < n := by
  have hfew : ∀ k < 174, ¬ Refuses (weight (60 ^ k)) := by decide +kernel
  have hmany : Refuses (weight (60 ^ 174)) := by decide +kernel
  constructor
  · rintro ⟨k, hk, h⟩
    by_contra hn
    exact hfew k (by omega) h
  · intro hn
    exact ⟨174, hn, hmany⟩

theorem number_refuses_iff (t : Text) : Refuses (number t) ↔ Numeral.binary64? t = none := by
  unfold number
  cases Numeral.binary64? t <;> simp

theorem magnitude_refuses_iff (u : Text) : Refuses (magnitude u) ↔ u ∉ [infinityWord, nanWord] ∧
    ((∃ part ∈ Text.splitAt ':' u, Numeral.binary64? part = none) ∨ 174 < (Text.splitAt ':' u).length) := by
  unfold magnitude
  by_cases hword : u = infinityWord ∨ u = nanWord
  · refine iff_of_false ?_ fun h => h.1 (by simpa using hword)
    rcases hword with rfl | rfl <;> decide
  obtain ⟨hinf, hnan⟩ := not_or.1 hword
  simp only [hinf, hnan, if_false, List.mem_cons, List.not_mem_nil, or_self, not_false_eq_true, true_and]
  by_cases hcolon : CodePoint.ofChar ':' ∈ u
  · have hparts : Refuses ((Text.splitAt ':' u).mapM number) ↔
        ∃ part ∈ Text.splitAt ':' u, Numeral.binary64? part = none := by
      simp only [refuses_mapM, number_refuses_iff]
    rw [if_pos (by simpa using hcolon), refuses_bind, hparts]
    rcases refuses_or_ok ((Text.splitAt ':' u).mapM number) with h | ⟨parts, h⟩
    · exact iff_of_true (Or.inl (hparts.1 h)) (Or.inl (hparts.1 h))
    · simp only [h, Except.ok.injEq, exists_eq_left', sixtieths_refuses_iff, List.length_reverse, Nat.one_mul,
        weight_sixty_refuses_iff, length_of_mapM h]
  · rw [if_neg (by simpa using hcolon), number_refuses_iff, Text.splitAt_of_not_mem hcolon]
    simp

theorem float_refuses_iff (t : Text) :
    Refuses (float t) ↔ Refuses (magnitude (Spelling.unsigned (Text.lower (withoutUnderscores t)))) := by
  have hempty : Refuses (magnitude []) := by decide
  rw [float, floatSpelling, refuses_bind, signOf_eq]
  by_cases ht : Text.lower (withoutUnderscores t) = []
  · simp [ht, Spelling.unsigned, hempty]
  · simp [ht]

/-! ## All tags -/

/-- the tags, and the texts that have no value by them -/
inductive Refused : Text → Text → Prop
  /-- no word of truth, in small letters or capitals -/
  | truth {t : Text} (h : Text.lower t ∉ truths.map Prod.fst) : Refused Tag.bool t
  /-- an integer without digits -/
  | noDigits {t : Text} (h : Spelling.unsigned (withoutUnderscores t) = []) : Refused Tag.int t
  /-- an integer with a numeral without digits, or with more than digits of its base -/
  | numeral {t : Text} {base : Nat} {part : Text}
      (hp : (base, part) ∈ numerals (Spelling.unsigned (withoutUnderscores t)))
      (h : Numeral.digitsOf base part = [] ∨ ∃ c ∈ Numeral.digitsOf base part, Numeral.isDigit base c = false) :
      Refused Tag.int t
  /-- a decimal integer with a numeral of too many digits -/
  | tooLong {t : Text} {part : Text} (hp : (10, part) ∈ numerals (Spelling.unsigned (withoutUnderscores t)))
      (h : Json.digitLimit < (Numeral.digitsOf 10 part).length) : Refused Tag.int t
  /-- neither infinite nor the word for no number, and with a part that is no decimal -/
  | decimal {t u part : Text} (hu : Spelling.unsigned (Text.lower (withoutUnderscores t)) = u)
      (hw : u ∉ [infinityWord, nanWord]) (hp : part ∈ Text.splitAt ':' u) (h : Numeral.binary64? part = none) :
      Refused Tag.float t
  /-- a number of so many parts to the base sixty that the weight of the first is none -/
  | sixtieths {t u : Text} (hu : Spelling.unsigned (Text.lower (withoutUnderscores t)) = u)
      (hw : u ∉ [infinityWord, nanWord]) (h : 174 < (Text.splitAt ':' u).length) : Refused Tag.float t
  /-- not spelled as a moment, or not on the calendar -/
  | moment {t : Text} (h : ∀ m, (Spelling.moment? t).or (Spelling.moment? (Spelling.withoutLineFeed t)) = some m →
      ¬ m.Exists) : Refused Tag.timestamp t

/-- **Refusals.** A text has no value by a tag in these cases only. -/
theorem spelled_refuses_iff (tag t : Text) : Refuses (spelled tag t) ↔ Refused tag t := by
  constructor
  · intro h
    unfold spelled at h
    split_ifs at h with hnull hbool hint hfloat htime
    · simp at h
    · rw [hbool]
      exact .truth ((bool_refuses_iff t).1 (by simpa using h))
    · rw [hint]
      rcases (int_refuses_iff t).1 (by simpa using h) with hempty | ⟨base, part, hp, hr⟩
      · exact .noDigits hempty
      · rcases (Numeral.integer_refuses_iff base part).1 hr with hnone | hother | ⟨rfl, hlong⟩
        · exact .numeral hp (Or.inl hnone)
        · exact .numeral hp (Or.inr hother)
        · exact .tooLong hp hlong
    · rw [hfloat]
      obtain ⟨hw, ⟨part, hp, hr⟩ | hmany⟩ :=
        (magnitude_refuses_iff _).1 ((float_refuses_iff t).1 (by simpa using h))
      · exact .decimal rfl hw hp hr
      · exact .sixtieths rfl hw hmany
    · rw [htime]
      exact .moment ((timestamp_refuses_iff t).1 h)
    · simp at h
  · intro h
    have hbool : spelled Tag.bool t = .bool <$> bool t := rfl
    have hint : spelled Tag.int t = .int <$> int t := rfl
    have hfloat : spelled Tag.float t = .float <$> float t := rfl
    have htime : spelled Tag.timestamp t = timestamp t := rfl
    cases h with
    | truth h => rwa [hbool, refuses_map, bool_refuses_iff]
    | noDigits h => exact hint ▸ (refuses_map _ _).2 ((int_refuses_iff t).2 (Or.inl h))
    | numeral hp h =>
      have hr := (Numeral.integer_refuses_iff _ _).2 (or_assoc.1 (Or.inl h))
      exact hint ▸ (refuses_map _ _).2 ((int_refuses_iff t).2 (Or.inr ⟨_, _, hp, hr⟩))
    | tooLong hp h =>
      have hr := (Numeral.integer_refuses_iff _ _).2 (Or.inr (Or.inr ⟨rfl, h⟩))
      exact hint ▸ (refuses_map _ _).2 ((int_refuses_iff t).2 (Or.inr ⟨_, _, hp, hr⟩))
    | decimal hu hw hp h =>
      rw [hfloat, refuses_map, float_refuses_iff, hu, magnitude_refuses_iff]
      exact ⟨hw, Or.inl ⟨_, hp, h⟩⟩
    | sixtieths hu hw h =>
      rw [hfloat, refuses_map, float_refuses_iff, hu, magnitude_refuses_iff]
      exact ⟨hw, Or.inr h⟩
    | moment h => rwa [htime, timestamp_refuses_iff]

end Scalar
end Yaml
end Typings
