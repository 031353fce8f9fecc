/-
Text as lists of code points.

A text may hold any code point, surrogates that stand alone included, because descriptors written with
escapes can bring them in and they only matter once a text is stored as bytes. String and character literals
stand for their texts through coercions, so a rule about fixed words reads as the words themselves.
-/

namespace Typings

/-- a Unicode code point, surrogates included -/
abbrev CodePoint := Fin 0x110000

-- the zero is written out so that a literal of a code point is one and the same term under any imports
instance neZeroCodePoints : @NeZero Nat Zero.ofOfNat0 0x110000 := ⟨by decide⟩

/-- a sequence of code points -/
abbrev Text := List CodePoint

/-- raw octets, as a file holds them -/
abbrev Bytes := List UInt8

namespace CodePoint

/-- the code point of a character -/
def ofChar (c : Char) : CodePoint :=
  ⟨c.val.toNat, by
    have h := c.valid
    simp only [UInt32.isValidChar, Nat.isValidChar] at h
    omega⟩

/-- half of a surrogate pair: no character of its own -/
def isSurrogate (c : CodePoint) : Bool := 0xD800 ≤ c.val && c.val ≤ 0xDFFF

/-- an ASCII digit -/
def isDigit (c : CodePoint) : Bool := 0x30 ≤ c.val && c.val ≤ 0x39

/-- an ASCII letter -/
def isLetter (c : CodePoint) : Bool :=
  (0x41 ≤ c.val && c.val ≤ 0x5A) || (0x61 ≤ c.val && c.val ≤ 0x7A)

/-- the value of a hexadecimal digit -/
def hexValue? (c : CodePoint) : Option Nat :=
  if c.isDigit then some (c.val - 0x30)
  else if 0x41 ≤ c.val ∧ c.val ≤ 0x46 then some (c.val - 0x41 + 10)
  else if 0x61 ≤ c.val ∧ c.val ≤ 0x66 then some (c.val - 0x61 + 10)
  else none

/-- the code point with a given number, or none beyond the last plane -/
def ofNat? (n : Nat) : Option CodePoint :=
  if h : n < 0x110000 then some ⟨n, h⟩ else none

/-- the code point with a given number; numbers beyond the last plane give the replacement character -/
def ofNat (n : Nat) : CodePoint := (ofNat? n).getD ⟨0xFFFD, by decide⟩

/-- ASCII capitals become small letters -/
def toLower (c : CodePoint) : CodePoint :=
  if 0x41 ≤ c.val ∧ c.val ≤ 0x5A then ofNat (c.val + 32) else c

end CodePoint

instance : Coe Char CodePoint := ⟨CodePoint.ofChar⟩

instance : Coe String Text := ⟨fun s => s.toList.map CodePoint.ofChar⟩

namespace Text

/-- the text of a string literal -/
def ofString (s : String) : Text := s.toList.map CodePoint.ofChar

/-- a text that stands only under a condition -/
def only (b : Bool) (t : Text) : Text := if b then t else []

/-- decimal digits of a natural number -/
def ofNat (n : Nat) : Text := (Nat.toDigits 10 n).map CodePoint.ofChar

/-- decimal digits of an integer, with a minus sign below zero -/
def ofInt : Int → Text
  | .ofNat n => ofNat n
  | .negSucc n => "-" ++ ofNat (n + 1)

/-- a text brought to a width by zeros in front -/
def zeroFill (width : Nat) (t : Text) : Text :=
  List.replicate (width - t.length) (CodePoint.ofChar '0') ++ t

/-- small hexadecimal digits, at least `width` of them -/
def hex (width n : Nat) : Text := zeroFill width ((Nat.toDigits 16 n).map CodePoint.ofChar)

/-- the number written by decimal digits; other code points count as zero -/
def toNat (t : Text) : Nat := t.foldl (fun n c => 10 * n + (c.val - 0x30)) 0

/-- the number written in a base, or none if a code point is no digit of it -/
def toNatBase? (base : Nat) (t : Text) : Option Nat :=
  t.foldl (fun n c => do
    let m ← n
    let d ← c.hexValue?
    if d < base then some (base * m + d) else none) (some 0)

/-- whether `t` begins with `p` -/
def startsWith (t p : Text) : Bool := p.isPrefixOf t

/-- whether `t` ends with `s` -/
def endsWith (t s : Text) : Bool := s.isSuffixOf t

/-- the texts with a separator between each two -/
def join (sep : Text) (ts : List Text) : Text := List.intercalate sep ts

/-- the pieces between the occurrences of a separator: always one more than there are separators -/
def splitAt (sep : CodePoint) : Text → List Text
  | [] => [[]]
  | c :: r =>
    if c = sep then [] :: splitAt sep r
    else match splitAt sep r with
      | [] => [[c]]
      | p :: ps => (c :: p) :: ps

/-- what stands before and after the last separator, or none without one -/
def splitLast (sep : CodePoint) : Text → Option (Text × Text)
  | [] => none
  | c :: r =>
    match splitLast sep r with
    | some (before, after) => some (c :: before, after)
    | none => if c = sep then some ([], r) else none

/-- ASCII capitals become small letters -/
def toLower (t : Text) : Text := t.map CodePoint.toLower

/-- `t` without a suffix it ends with -/
def dropSuffix (t suffix : Text) : Text :=
  if t.endsWith suffix then t.take (t.length - suffix.length) else t

/-- lexicographic order by code points -/
def before : Text → Text → Bool
  | [], [] => false
  | [], _ :: _ => true
  | _ :: _, [] => false
  | a :: r, b :: s => a.val < b.val || (a = b && before r s)

theorem before_irrefl (t : Text) : before t t = false := by
  induction t with
  | nil => rfl
  | cons c r ih => simp [before, ih]

theorem before_trans {s t u : Text} (h : before s t = true) (h' : before t u = true) : before s u = true := by
  induction s generalizing t u with
  | nil =>
    cases t with
    | nil => cases h
    | cons b t => cases u <;> simp_all [before]
  | cons a s ih =>
    cases t with
    | nil => cases h
    | cons b t =>
      cases u with
      | nil => cases h'
      | cons c u =>
        simp only [before, Bool.or_eq_true, decide_eq_true_eq, Bool.and_eq_true] at h h' ⊢
        rcases h with h | ⟨rfl, h⟩
        · rcases h' with h' | ⟨rfl, -⟩
          · exact Or.inl (Nat.lt_trans h h')
          · exact Or.inl h
        · exact h'.imp id fun ⟨hb, h'⟩ => ⟨hb, ih h h'⟩

theorem before_total {s t : Text} (h : s ≠ t) : before s t = true ∨ before t s = true := by
  induction s generalizing t with
  | nil =>
    cases t with
    | nil => exact absurd rfl h
    | cons b t => exact Or.inl rfl
  | cons a s ih =>
    cases t with
    | nil => exact Or.inr rfl
    | cons b t =>
      simp only [before, Bool.or_eq_true, decide_eq_true_eq, Bool.and_eq_true]
      by_cases hab : a = b
      · subst hab
        exact (ih fun hs => h (by rw [hs])).imp (fun hs => Or.inr ⟨rfl, hs⟩) fun hs => Or.inr ⟨rfl, hs⟩
      · exact (Nat.lt_or_gt_of_ne fun hv => hab (Fin.ext hv)).imp Or.inl Or.inl

end Text
end Typings
