/-
Words, numbers and strings of a JSON text, and how each is read back.

A piece is read from the front of a text, so each statement allows for what follows it; only a number must not go on
there. The bound on the steps of reading is twice the length of the piece.
- `toNat_ofNat`: the digits of a number are those of no other.
- `readString_escaped`: one code point of a string is read back; `readString_string`: hence all of it.
- `reads_leaf`: what has no parts is read back, but for binary64 numbers and long integers.
-/
import Typings.Json.Reader
import Typings.Json.Writer
import Typings.Proofs.Value.Entries

namespace Typings

/-! ## Digits -/

namespace Text

theorem isDigit_of_mem_ofNat {n : Nat} {c : CodePoint} (h : c ∈ ofNat n) : c.isDigit = true := by
  obtain ⟨d, hd, rfl⟩ := List.mem_map.1 h
  have hdigit := Nat.isDigit_of_mem_toDigits (by decide) (le_refl 10) hd
  simp only [Char.isDigit, Bool.and_eq_true, decide_eq_true_eq] at hdigit
  rw [CodePoint.isDigit, Bool.and_eq_true, decide_eq_true_eq, decide_eq_true_eq]
  exact hdigit

theorem ofNat_ne_nil (n : Nat) : ofNat n ≠ [] := by
  simp [ofNat, Nat.toDigits_ne_nil]

/-- a digit of a number below ten -/
def digitOf (d : Nat) : CodePoint := CodePoint.ofChar d.digitChar

theorem ofNat_of_lt {n : Nat} (h : n < 10) : ofNat n = [digitOf n] := by
  rw [ofNat, Nat.toDigits_of_lt_base h, List.map_singleton, digitOf]

theorem ofNat_of_le {n : Nat} (h : 10 ≤ n) : ofNat n = ofNat (n / 10) ++ [digitOf (n % 10)] := by
  rw [ofNat, Nat.toDigits_of_base_le (by decide) h, List.map_append, List.map_singleton, ofNat, digitOf]

theorem toNat_append_digit (t : Text) {d : Nat} (h : d < 10) : toNat (t ++ [digitOf d]) = 10 * toNat t + d := by
  have hvalue : ∀ d < 10, (digitOf d).val - 0x30 = d := by decide
  simp [toNat, hvalue d h]

/-- **The digits of a number** are those of no other. -/
theorem toNat_ofNat (n : Nat) : toNat (ofNat n) = n := by
  induction n using Nat.strong_induction_on with
  | _ n ih =>
    by_cases h : n < 10
    · rw [ofNat_of_lt h]
      exact (toNat_append_digit [] h).trans (by simp [toNat])
    · rw [ofNat_of_le (by omega), toNat_append_digit _ (Nat.mod_lt _ (by decide)), ih _ (by omega)]
      omega

/-- no digits but the zero itself begin with a zero -/
theorem startsWith_zero {n : Nat} (h : 0 < n) : startsWith (ofNat n) "0" = false := by
  induction n using Nat.strong_induction_on with
  | _ n ih =>
    by_cases hn : n < 10
    · have hdigit : ∀ d < 10, 0 < d → startsWith [digitOf d] "0" = false := by decide
      rw [ofNat_of_lt hn, hdigit n hn h]
    · have hfirst := ih (n / 10) (by omega) (by omega)
      obtain ⟨c, r, hcr⟩ := List.exists_cons_of_ne_nil (ofNat_ne_nil (n / 10))
      rw [ofNat_of_le (by omega)]
      rw [hcr] at hfirst ⊢
      exact hfirst

theorem length_ofNat_le {n k : Nat} (hk : 0 < k) : (ofNat n).length ≤ k ↔ n < 10 ^ k := by
  rw [ofNat, List.length_map, Nat.length_toDigits_le_iff (by decide) hk]

end Text

namespace Json

open Text

variable {fuel level : Nat} {rest t : Text} {v : Value} {items : List Value}

/-! ## Numbers -/

/-- a text that does not go on with a number in front of it -/
def Ends (rest : Text) : Prop := ∀ c r, rest = c :: r → c.isDigit = false ∧ c ≠ '.' ∧ c ≠ 'e' ∧ c ≠ 'E'

theorem ends_nil : Ends [] := by
  intro c r h
  cases h

theorem ends_cons {c : CodePoint} (h : c.isDigit = false ∧ c ≠ '.' ∧ c ≠ 'e' ∧ c ≠ 'E') (r : Text) :
    Ends (c :: r) := by
  intro d s hd
  cases hd
  exact h

theorem takeWhile_digits {n : Nat} (h : Ends rest) : (ofNat n ++ rest).takeWhile CodePoint.isDigit = ofNat n := by
  rw [List.takeWhile_append_of_pos fun c hc => isDigit_of_mem_ofNat hc]
  cases rest with
  | nil => simp
  | cons c r => simp [(h c r rfl).1]

theorem fractionPart_of_ends (h : Ends rest) : fractionPart rest = none := by
  cases rest with
  | nil => rfl
  | cons c r => simp [fractionPart, (h c r rfl).2.1]

theorem exponentPart_of_ends (h : Ends rest) : exponentPart rest = none := by
  cases rest with
  | nil => rfl
  | cons c r => simp [exponentPart, (h c r rfl).2.2]

/-- an integer without more digits than are converted -/
theorem integerOf_ofNat {n : Nat} (negative : Bool) (h : n < 10 ^ digitLimit) :
    integerOf negative (ofNat n) = .ok (.int (if negative then -(n : Int) else n)) := by
  have hshort : (ofNat n).length ≤ digitLimit := (length_ofNat_le (by decide)).2 h
  rw [integerOf, if_neg (by omega), toNat_ofNat]

/-- the digits behind a sign, as a number is read -/
theorem readNumber_digits {n : Nat} (negative : Bool) (h : n < 10 ^ digitLimit) (he : Ends rest)
    (ht : t.startsWith "-" = negative) (hs : (if negative then t.drop 1 else t) = ofNat n ++ rest) :
    readNumber t = .ok (.int (if negative then -(n : Int) else n), rest) := by
  have hwhole : (if startsWith (ofNat n) "0" then (ofNat n).take 1 else ofNat n) = ofNat n := by
    rcases Nat.eq_zero_or_pos n with rfl | hn
    · rfl
    · rw [startsWith_zero hn]
      rfl
  simp only [readNumber, ht, hs, takeWhile_digits he, hwhole, ofNat_ne_nil, if_false, List.drop_left,
    fractionPart_of_ends he, exponentPart_of_ends he, integerOf_ofNat negative h]
  rfl

theorem isLong_eq_false {n : Int} : isLong n = false ↔ n.natAbs < 10 ^ digitLimit := by
  rw [isLong, decide_eq_false_iff_not, Nat.pow_eq, not_le]

theorem readNumber_ofInt {n : Int} (h : isLong n = false) (he : Ends rest) :
    readNumber (ofInt n ++ rest) = .ok (.int n, rest) := by
  rw [isLong_eq_false] at h
  cases n with
  | ofNat n =>
    refine readNumber_digits false h he ?_ rfl
    obtain ⟨c, r, hcr⟩ := List.exists_cons_of_ne_nil (ofNat_ne_nil n)
    have hc : c.isDigit = true := isDigit_of_mem_ofNat (n := n) (by rw [hcr]; exact List.mem_cons_self)
    have hsign : c ≠ '-' := by
      rintro rfl
      cases hc
    rw [ofInt, hcr]
    simpa [startsWith, List.isPrefixOf] using hsign.symm
  | negSucc n => exact readNumber_digits true h he rfl rfl

/-! ## Strings -/

theorem hex_escape : ∀ n < 0x20, (hex 4 n).length = 4 ∧ toNatBase? 16 (hex 4 n) = some n := by
  decide

/-- what four digits behind a letter u stand for -/
theorem hexEscape_hex {c : CodePoint} (h : c.val < 0x20) (u : CodePoint) (hr : rest ≠ []) :
    hexEscape (u :: (hex 4 c.val ++ rest)) = .ok (c, 4) := by
  obtain ⟨hlength, hvalue⟩ := hex_escape c.val h
  have hmore : 0 < rest.length := List.length_pos_of_ne_nil hr
  have htake : hex4? (hex 4 c.val ++ rest) = some c.val := by
    rw [hex4?, if_neg (by rw [List.length_append]; omega), List.take_append_of_le_length (by omega),
      List.take_of_length_le (by omega), hvalue]
  have hlow : ¬ (0xD800 ≤ c.val) := by omega
  have hpoint : CodePoint.ofNat c.val = c := by simp [CodePoint.ofNat, CodePoint.ofNat?]
  simp only [hexEscape, List.drop_one, List.tail_cons, htake, hlow, false_and, if_false, hpoint]
  rw [if_neg (by rw [List.length_append]; omega)]

/-- what is read behind a code point of a string -/
def behind (c : CodePoint) (x : Except Stop (Text × Text)) : Except Stop (Text × Text) :=
  x.map fun found => (c :: found.1, found.2)

variable {opening : Text} {c d : CodePoint}

theorem readString_quote (opening : Text) (fuel : Nat) (r : Text) :
    readString opening (fuel + 1) (CodePoint.ofChar '"' :: r) = .ok ([], r) := by
  simp [readString]

theorem readString_plain (hq : c ≠ '"') (hb : c ≠ '\\') (hc : 0x20 ≤ c.val) (r : Text) :
    readString opening (fuel + 1) (c :: r) = behind c (readString opening fuel r) := by
  have hcontrol : ¬ c.val ≤ 0x1F := by omega
  simp only [readString, hq, hb, hcontrol, if_false, behind]
  cases readString opening fuel r <;> rfl

theorem readString_letter (hu : c ≠ 'u') (hd : escapeLetter? c = some d) (r : Text) :
    readString opening (fuel + 1) (CodePoint.ofChar '\\' :: c :: r) = behind d (readString opening fuel r) := by
  have hq : CodePoint.ofChar '\\' ≠ '"' := by decide
  simp only [readString, hq, hu, hd, if_false, if_true, behind]
  cases readString opening fuel r <;> rfl

theorem readString_hex (opening : Text) (fuel : Nat) {r : Text} {used : Nat}
    (h : hexEscape (CodePoint.ofChar 'u' :: r) = .ok (d, used)) :
    readString opening (fuel + 1) (CodePoint.ofChar '\\' :: CodePoint.ofChar 'u' :: r) =
      behind d (readString opening fuel (r.drop used)) := by
  have hq : CodePoint.ofChar '\\' ≠ '"' := by decide
  simp only [readString, hq, h, if_false, if_true, behind]
  cases hs : readString opening fuel (r.drop used) <;> simp [hs, bind, Except.bind, Except.map]

/-- **One code point** of a string is read back. -/
theorem readString_escaped (opening : Text) (fuel : Nat) (c : CodePoint) (hr : rest ≠ []) :
    readString opening (fuel + 1) (escaped c ++ rest) = behind c (readString opening fuel rest) := by
  have hval : ∀ n : Nat, ∀ h : n < 0x110000, c.val = n → c = ⟨n, h⟩ := fun n h hn => Fin.ext hn
  unfold escaped
  split_ifs with hquote hback h10 h13 h9 h12 h8 hlow
  · subst hquote
    exact readString_letter (by decide) rfl rest
  · subst hback
    exact readString_letter (by decide) rfl rest
  · rw [hval 10 (by decide) h10]
    exact readString_letter (by decide) rfl rest
  · rw [hval 13 (by decide) h13]
    exact readString_letter (by decide) rfl rest
  · rw [hval 9 (by decide) h9]
    exact readString_letter (by decide) rfl rest
  · rw [hval 12 (by decide) h12]
    exact readString_letter (by decide) rfl rest
  · rw [hval 8 (by decide) h8]
    exact readString_letter (by decide) rfl rest
  · have hread := readString_hex opening fuel (hexEscape_hex hlow 'u' hr)
    rwa [List.drop_left' (hex_escape c.val hlow).1] at hread
  · exact readString_plain hquote hback (by omega) rest

/-- **A string** is read back. -/
theorem readString_string (opening rest t : Text) (fuel : Nat) (h : t.length < fuel) :
    readString opening fuel (t.flatMap escaped ++ CodePoint.ofChar '"' :: rest) = .ok (t, rest) := by
  induction t generalizing fuel with
  | nil =>
    obtain ⟨n, rfl⟩ : ∃ n, fuel = n + 1 := ⟨fuel - 1, by simp at h; omega⟩
    exact readString_quote opening n rest
  | cons c t ih =>
    obtain ⟨n, rfl⟩ : ∃ n, fuel = n + 1 := ⟨fuel - 1, by simp at h; omega⟩
    rw [List.flatMap_cons, List.append_assoc, readString_escaped opening n c (by simp), ih n (by simpa using h)]
    rfl

/-! ## White space -/

theorem skipSpace_append {a : Text} (ha : ∀ c ∈ a, isSpace c = true) (b : Text) :
    skipSpace (a ++ b) = skipSpace b := by
  rw [skipSpace, List.dropWhile_append_of_pos ha, skipSpace]

theorem skipSpace_cons (hc : isSpace c = false) (r : Text) : skipSpace (c :: r) = c :: r := by
  simp [skipSpace, hc]

theorem isSpace_indent : ∀ c ∈ indent level, isSpace c = true := by
  intro c hc
  rw [List.eq_of_mem_replicate hc]
  rfl

/-- a piece whose first code point is neither white space nor the end of a container -/
def Begins (t : Text) : Prop := ∃ c r, t = c :: r ∧ c.val < 0x80 ∧ isSpace c = false ∧ c ≠ ']' ∧ c ≠ '\x7d'

theorem Begins.append (h : Begins t) (r : Text) : Begins (t ++ r) := by
  obtain ⟨c, s, rfl, hc⟩ := h
  exact ⟨c, s ++ r, rfl, hc⟩

theorem Begins.skipSpace_eq (h : Begins t) : skipSpace t = t := by
  obtain ⟨c, s, rfl, -, hc, -⟩ := h
  exact skipSpace_cons hc s

theorem startsWith_singleton (c d : CodePoint) (r : Text) : startsWith (c :: r) [d] = (d == c) := by
  simp [startsWith, List.isPrefixOf]

theorem Begins.not_closing (h : Begins t) : t.startsWith "]" = false ∧ t.startsWith "\x7d" = false := by
  obtain ⟨c, s, rfl, -, -, hlist, hmap⟩ := h
  exact ⟨(startsWith_singleton _ _ s).trans (beq_false_of_ne hlist.symm),
    (startsWith_singleton _ _ s).trans (beq_false_of_ne hmap.symm)⟩

/-- white space in front of the end of a container does not go on with a number -/
theorem ends_of_space {a : Text} (ha : ∀ c ∈ a, isSpace c = true) (hr : Ends rest) : Ends (a ++ rest) := by
  cases a with
  | nil => exact hr
  | cons c a =>
    have hspace : ∀ d : CodePoint, isSpace d = true → d.isDigit = false ∧ d ≠ '.' ∧ d ≠ 'e' ∧ d ≠ 'E' := by
      intro d hd
      simp only [isSpace, Bool.or_eq_true, beq_iff_eq] at hd
      have hval : d = 32 ∨ d = 9 ∨ d = 10 ∨ d = 13 := by
        rcases hd with ((hd | hd) | hd) | hd
        · exact Or.inl (Fin.ext hd)
        · exact Or.inr (Or.inl (Fin.ext hd))
        · exact Or.inr (Or.inr (Or.inl (Fin.ext hd)))
        · exact Or.inr (Or.inr (Or.inr (Fin.ext hd)))
      rcases hval with rfl | rfl | rfl | rfl <;> decide
    exact ends_cons (hspace c (ha c List.mem_cons_self)) _

theorem ends_of_gap {a : Text} (ha : ∀ c ∈ a, isSpace c = true) : Ends a :=
  List.append_nil a ▸ ends_of_space ha ends_nil

/-! ## Leaves -/

/-- the leaves that are written without loss: no binary64 numbers, no long integers, no kinds that JSON lacks -/
inductive IsExact : Value → Prop
  | null : IsExact .null
  | bool (b : Bool) : IsExact (.bool b)
  | int {n : Int} (h : isLong n = false) : IsExact (.int n)
  | text (t : Text) : IsExact (.text t)

/-- a value that is read back at any level, whatever follows it -/
structure Reads (v : Value) : Prop where
  begins : ∀ level, Begins (write level v)
  read : ∀ level fuel rest, 2 * (write level v).length ≤ fuel → Ends rest →
    readValue fuel (write level v ++ rest) = .ok (v, rest)

/-- a number begins with a digit, or with a sign and a digit -/
theorem ofInt_head (n : Int) : ∃ c r, ofInt n = c :: r ∧
    (c.isDigit = true ∨ c = '-' ∧ ∃ d s, r = d :: s ∧ d.isDigit = true) := by
  have hdigits : ∀ n, ∃ c r, ofNat n = c :: r ∧ c.isDigit = true := by
    intro n
    obtain ⟨c, r, hcr⟩ := List.exists_cons_of_ne_nil (ofNat_ne_nil n)
    exact ⟨c, r, hcr, isDigit_of_mem_ofNat (n := n) (by rw [hcr]; exact List.mem_cons_self)⟩
  cases n with
  | ofNat n =>
    obtain ⟨c, r, hcr, hc⟩ := hdigits n
    exact ⟨c, r, hcr, Or.inl hc⟩
  | negSucc n =>
    obtain ⟨c, r, hcr, hc⟩ := hdigits (n + 1)
    exact ⟨'-', ofNat (n + 1), rfl, Or.inr ⟨rfl, c, r, hcr, hc⟩⟩

/-- a code point of its own is told from a digit -/
theorem ne_of_isDigit {c : CodePoint} (hc : c.isDigit = true) (h : d.isDigit = false) : c ≠ d := by
  rintro rfl
  rw [h] at hc
  cases hc

theorem begins_ofInt (n : Int) : Begins (ofInt n) := by
  obtain ⟨c, r, hcr, hc | ⟨rfl, -⟩⟩ := ofInt_head n
  · have hrange := hc
    simp only [CodePoint.isDigit, Bool.and_eq_true, decide_eq_true_eq] at hrange
    refine ⟨c, r, hcr, by omega, ?_, ne_of_isDigit hc rfl, ne_of_isDigit hc rfl⟩
    simp [isSpace]
    omega
  · exact ⟨_, r, hcr, by decide, by decide, by decide⟩

/-- a word is no number: neither its first code point nor the one behind a sign is a digit -/
theorem words_head : ∀ w ∈ words, ∃ a s, w.1 = a :: s ∧ a.isDigit = false ∧
    (a = '-' → ∃ b u, s = b :: u ∧ b.isDigit = false) := by
  simp only [words, List.forall_mem_cons]
  refine ⟨⟨_, _, rfl, rfl, ?_⟩, ⟨_, _, rfl, rfl, ?_⟩, ⟨_, _, rfl, rfl, ?_⟩, ⟨_, _, rfl, rfl, ?_⟩,
    ⟨_, _, rfl, rfl, ?_⟩, ⟨_, _, rfl, rfl, fun _ => ⟨_, _, rfl, rfl⟩⟩, by simp⟩ <;>
    exact fun h => absurd h (by decide)

theorem readWord?_ofInt (n : Int) (rest : Text) : readWord? (ofInt n ++ rest) = none := by
  rw [readWord?, List.find?_eq_none.2, Option.map_none]
  intro w hw hstart
  obtain ⟨a, s, hword, ha, hsign⟩ := words_head w hw
  obtain ⟨more, hmore⟩ := List.isPrefixOf_iff_prefix.1 hstart
  obtain ⟨c, r, hcr, hc⟩ := ofInt_head n
  rw [hword, hcr] at hmore
  obtain ⟨rfl, hrest⟩ := List.cons.inj hmore
  rcases hc with hc | ⟨hminus, d, u, rfl, hd⟩
  · exact ne_of_isDigit hc ha rfl
  · obtain ⟨b, u', rfl, hb⟩ := hsign hminus
    exact ne_of_isDigit hd hb (List.cons.inj hrest).1.symm

theorem readValue_ofInt {n : Int} (h : isLong n = false) (he : Ends rest) (fuel : Nat) :
    readValue (fuel + 1) (ofInt n ++ rest) = .ok (.int n, rest) := by
  have hword := readWord?_ofInt n rest
  have hnumber := readNumber_ofInt h he
  obtain ⟨c, r, hcr, hc⟩ := ofInt_head n
  have hne : c ≠ '"' ∧ c ≠ '[' ∧ c ≠ '\x7b' := by
    rcases hc with hc | ⟨rfl, -⟩
    · exact ⟨ne_of_isDigit hc rfl, ne_of_isDigit hc rfl, ne_of_isDigit hc rfl⟩
    · decide
  rw [hcr] at hword hnumber ⊢
  simp only [List.cons_append] at hword hnumber ⊢
  simp only [readValue, hne, if_false, hword, hnumber]

theorem string_eq (t : Text) (rest : Text) :
    string t ++ rest = CodePoint.ofChar '"' :: (t.flatMap escaped ++ CodePoint.ofChar '"' :: rest) := by
  simp [string]

theorem length_lt_string (t : Text) : t.length + 1 < (string t).length := by
  have hone : ∀ c : CodePoint, 1 ≤ (escaped c).length := by
    intro c
    unfold escaped
    split_ifs <;> simp
  have hall : t.length ≤ (t.flatMap escaped).length := by
    induction t with
    | nil => simp
    | cons c t ih =>
      have := hone c
      simp only [List.flatMap_cons, List.length_append, List.length_cons]
      omega
  have hwhole := congrArg List.length (string_eq t [])
  simp only [List.append_nil, List.length_cons, List.length_append, List.length_nil] at hwhole
  omega

theorem readValue_string {fuel : Nat} (t rest : Text) (h : (string t).length ≤ fuel) :
    readValue fuel (string t ++ rest) = .ok (.text t, rest) := by
  have hlength := length_lt_string t
  obtain ⟨n, rfl⟩ : ∃ n, fuel = n + 1 := ⟨fuel - 1, by omega⟩
  rw [string_eq]
  simp only [readValue, if_true, readString_string _ _ t n (by omega)]
  rfl

/-- a word is read back -/
theorem reads_word {w r : Text} {c : CodePoint} (hwrite : ∀ level, write level v = w)
    (hread : ∀ rest, readWord? (w ++ rest) = some (v, rest)) (hw : w = c :: r)
    (hc : c.val < 0x80 ∧ isSpace c = false ∧ (c ≠ ']' ∧ c ≠ '\x7d') ∧ c ≠ '"' ∧ c ≠ '[' ∧ c ≠ '\x7b') : Reads v where
  begins level := ⟨c, r, (hwrite level).trans hw, hc.1, hc.2.1, hc.2.2.1⟩
  read := by
    intro level fuel rest hfuel _
    have hword := hread rest
    rw [hwrite, hw] at hfuel ⊢
    rw [hw] at hword
    obtain ⟨n, rfl⟩ : ∃ n, fuel = n + 1 := ⟨fuel - 1, by simp at hfuel; omega⟩
    rw [List.cons_append] at hword ⊢
    simp only [readValue, hc, if_false, hword]

theorem reads_leaf (h : IsExact v) : Reads v := by
  cases h with
  | null => exact reads_word (fun _ => rfl) (fun _ => rfl) rfl (by decide)
  | bool b =>
    cases b with
    | false => exact reads_word (fun _ => rfl) (fun _ => rfl) rfl (by decide)
    | true => exact reads_word (fun _ => rfl) (fun _ => rfl) rfl (by decide)
  | @int n h =>
    refine ⟨fun _ => begins_ofInt n, fun level fuel rest hfuel he => ?_⟩
    simp only [write] at hfuel ⊢
    obtain ⟨c, r, hcr, -⟩ := ofInt_head n
    obtain ⟨k, rfl⟩ : ∃ k, fuel = k + 1 := ⟨fuel - 1, by simp [hcr] at hfuel; omega⟩
    exact readValue_ofInt h he k
  | text t =>
    refine ⟨fun _ => ⟨'"', _, rfl, by decide, by decide, by decide⟩, fun level fuel rest hfuel _ => ?_⟩
    simp only [write] at hfuel ⊢
    exact readValue_string t rest (by omega)

end Json
end Typings
