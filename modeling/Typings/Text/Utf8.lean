/-
UTF-8: texts as octets and back.

Encoding fails at the first surrogate and names the whole run of surrogates there. Decoding is strict: it
stops at the first octet sequence that is no code point and says which octets are at fault and why.
-/
import Typings.Text.Basic

namespace Typings.Utf8

/-! ## Encoding -/

/-- a run of surrogates that has no octets -/
structure Unencodable where
  /-- the first code point of the run -/
  first : CodePoint
  /-- its position in the text -/
  position : Nat
  /-- the length of the run -/
  count : Nat
  deriving DecidableEq, Repr

/-- the octets of one code point -/
def encodeOne (c : CodePoint) : Bytes :=
  let n := c.val
  if n < 0x80 then [n.toUInt8]
  else if n < 0x800 then [(0xC0 + n / 64).toUInt8, (0x80 + n % 64).toUInt8]
  else if n < 0x10000 then
    [(0xE0 + n / 4096).toUInt8, (0x80 + n / 64 % 64).toUInt8, (0x80 + n % 64).toUInt8]
  else
    [(0xF0 + n / 262144).toUInt8, (0x80 + n / 4096 % 64).toUInt8, (0x80 + n / 64 % 64).toUInt8,
      (0x80 + n % 64).toUInt8]

/-- the octets of a text, surrogates written as if they were code points like others -/
def encodeAll (t : Text) : Bytes := t.flatMap encodeOne

/-- the first run of surrogates from a position on -/
def firstRun (position : Nat) : Text → Option Unencodable
  | [] => none
  | c :: r =>
    if c.isSurrogate then some ⟨c, position, 1 + (r.takeWhile CodePoint.isSurrogate).length⟩
    else firstRun (position + 1) r

/-- the octets of a text, unless it holds a surrogate -/
def encode (t : Text) : Except Unencodable Bytes :=
  match firstRun 0 t with
  | some fault => .error fault
  | none => .ok (encodeAll t)

/-- whether a text can be written as octets -/
def isEncodable (t : Text) : Bool := !t.any CodePoint.isSurrogate

/-- the number of octets of a text -/
def size (t : Text) : Nat := (encodeAll t).length

/-- a code point as an escape: two, four or eight hexadecimal digits -/
def escaped (c : CodePoint) : Text :=
  if c.val < 0x100 then "\\x" ++ Text.hex 2 c.val
  else if c.val < 0x10000 then "\\u" ++ Text.hex 4 c.val
  else "\\U" ++ Text.hex 8 c.val

/-- a text in which every surrogate is written as an escape -/
def escapeSurrogates (t : Text) : Text :=
  t.flatMap fun c => if c.isSurrogate then escaped c else [c]

def Unencodable.message (e : Unencodable) : Text :=
  if e.count = 1 then
    "'utf-8' codec can't encode character '" ++ escaped e.first ++ "' in position "
      ++ Text.ofNat e.position ++ ": surrogates not allowed"
  else
    "'utf-8' codec can't encode characters in position " ++ Text.ofNat e.position ++ "-"
      ++ Text.ofNat (e.position + e.count - 1) ++ ": surrogates not allowed"

/-! ## Decoding -/

/-- why octets are no code point -/
inductive Reason
  | invalidStart
  | invalidContinuation
  | unexpectedEnd
  deriving DecidableEq, Repr

/-- octets that are no code point -/
structure Undecodable where
  /-- the first octet at fault -/
  first : UInt8
  /-- its position among the octets -/
  position : Nat
  /-- how many octets are at fault -/
  count : Nat
  reason : Reason
  deriving DecidableEq, Repr

/-- what a first octet promises: how many octets follow, the range of the next one, its own bits -/
structure Lead where
  owed : Nat
  low : UInt8
  high : UInt8
  bits : Nat

/-- the promise of a first octet, or none if no code point starts with it -/
def lead? (b : UInt8) : Option Lead :=
  if b < 0x80 then some ⟨0, 0x80, 0xBF, b.toNat⟩
  else if b < 0xC2 then none
  else if b < 0xE0 then some ⟨1, 0x80, 0xBF, b.toNat - 0xC0⟩
  else if b < 0xF0 then
    some ⟨2, if b = 0xE0 then 0xA0 else 0x80, if b = 0xED then 0x9F else 0xBF, b.toNat - 0xE0⟩
  else if b < 0xF5 then
    some ⟨3, if b = 0xF0 then 0x90 else 0x80, if b = 0xF4 then 0x8F else 0xBF, b.toNat - 0xF0⟩
  else none

/-- the octets owed after a first one: the code point's number and the rest, or how many octets went well
and what is wrong then -/
def tails (owed : Nat) (low high : UInt8) (bits used : Nat) : Bytes → Except (Nat × Reason) (Nat × Bytes)
  | [] => match owed with
    | 0 => .ok (bits, [])
    | _ + 1 => .error (used, .unexpectedEnd)
  | b :: r => match owed with
    | 0 => .ok (bits, b :: r)
    | owed + 1 =>
      if low ≤ b ∧ b ≤ high then tails owed 0x80 0xBF (64 * bits + (b.toNat - 0x80)) (used + 1) r
      else .error (used, .invalidContinuation)

theorem tails_length {owed : Nat} {low high : UInt8} {bits used n : Nat} {s r : Bytes}
    (h : tails owed low high bits used s = .ok (n, r)) : r.length ≤ s.length := by
  induction s generalizing owed low high bits used with
  | nil => cases owed <;> simp_all [tails]
  | cons b s ih =>
    cases owed with
    | zero => simp only [tails, Except.ok.injEq, Prod.mk.injEq] at h; simp [← h.2]
    | succ owed =>
      simp only [tails] at h
      split at h
      · exact Nat.le_succ_of_le (ih h)
      · cases h

/-- the text of octets that stand at a position of a file -/
def decodeFrom (position : Nat) (s : Bytes) : Except Undecodable Text :=
  match s with
  | [] => .ok []
  | b :: r =>
    match lead? b with
    | none => .error ⟨b, position, 1, .invalidStart⟩
    | some l =>
      match h : tails l.owed l.low l.high l.bits 1 r with
      | .error (used, reason) => .error ⟨b, position, used, reason⟩
      | .ok (n, rest) => do
        let t ← decodeFrom (position + 1 + l.owed) rest
        .ok (CodePoint.ofNat n :: t)
termination_by s.length
decreasing_by exact Nat.lt_succ_of_le (tails_length h)

/-- the text of the octets -/
def decode (s : Bytes) : Except Undecodable Text := decodeFrom 0 s

def Reason.message : Reason → Text
  | .invalidStart => "invalid start byte"
  | .invalidContinuation => "invalid continuation byte"
  | .unexpectedEnd => "unexpected end of data"

def Undecodable.message (e : Undecodable) : Text :=
  (if e.count = 1 then
    "'utf-8' codec can't decode byte 0x" ++ Text.hex 2 e.first.toNat ++ " in position "
      ++ Text.ofNat e.position
  else
    "'utf-8' codec can't decode bytes in position " ++ Text.ofNat e.position ++ "-"
      ++ Text.ofNat (e.position + e.count - 1)) ++ ": " ++ e.reason.message

end Typings.Utf8
