/-
Decoding: the octets of a text give the text back.

A first octet promises how many are to come and in what range the next one is, and it carries the highest bits. The
narrower ranges behind some first octets leave out just what is never written: longer forms of smaller numbers, numbers
beyond the last plane, and surrogates.
- `lead?_two`, `lead?_three`, `lead?_four`: what a first octet promises.
- `tails_continuation`: an octet that follows adds its six bits; `tails_three`, `tails_four`: so numbers come back.
- `decodeFrom_encodeOne`: a code point is read and what follows it is left.
- `decode_encodeAll`: so is a text, code point by code point.
-/
import Typings.Proofs.Text.Octets

namespace Typings.Utf8

/-! ## First octets -/

section

variable {n m : Nat}

theorem toNat_toUInt8 (h : n < 256) : n.toUInt8.toNat = n := UInt8.toNat_ofNat_of_lt h

theorem toUInt8_lt_iff (hn : n < 256) (hm : m < 256) : n.toUInt8 < m.toUInt8 ↔ n < m := by
  rw [UInt8.lt_iff_toNat_lt, toNat_toUInt8 hn, toNat_toUInt8 hm]

theorem toUInt8_eq_iff (hn : n < 256) (hm : m < 256) : n.toUInt8 = m.toUInt8 ↔ n = m := by
  rw [← UInt8.toNat_inj, toNat_toUInt8 hn, toNat_toUInt8 hm]

/-- what a first octet promises, by its number -/
theorem lead?_toUInt8 (h : n < 256) : lead? n.toUInt8 =
    if n < 0x80 then some ⟨0, 0x80, 0xBF, n⟩
    else if n < 0xC2 then none
    else if n < 0xE0 then some ⟨1, 0x80, 0xBF, n - 0xC0⟩
    else if n < 0xF0 then
      some ⟨2, if n = 0xE0 then 0xA0 else 0x80, if n = 0xED then 0x9F else 0xBF, n - 0xE0⟩
    else if n < 0xF5 then
      some ⟨3, if n = 0xF0 then 0x90 else 0x80, if n = 0xF4 then 0x8F else 0xBF, n - 0xF0⟩
    else none := by
  have hlt {m : Nat} (hm : m < 256) := toUInt8_lt_iff h hm
  have heq {m : Nat} (hm : m < 256) := toUInt8_eq_iff h hm
  simp only [lead?, toNat_toUInt8 h]
  simp only [← hlt (by decide : 0x80 < 256), ← hlt (by decide : 0xC2 < 256), ← hlt (by decide : 0xE0 < 256),
    ← hlt (by decide : 0xF0 < 256), ← hlt (by decide : 0xF5 < 256), ← heq (by decide : 0xE0 < 256),
    ← heq (by decide : 0xED < 256), ← heq (by decide : 0xF0 < 256), ← heq (by decide : 0xF4 < 256)]
  rfl

theorem lead?_two (h : 2 ≤ n) (h' : n < 32) : lead? (0xC0 + n).toUInt8 = some ⟨1, 0x80, 0xBF, n⟩ := by
  rw [lead?_toUInt8 (by omega), if_neg (by omega), if_neg (by omega), if_pos (by omega), Nat.add_sub_cancel_left]

/-- the first of three octets: longer forms and surrogates are left out -/
theorem lead?_three (h : n < 16) : lead? (0xE0 + n).toUInt8 =
    some ⟨2, if n = 0 then 0xA0 else 0x80, if n = 13 then 0x9F else 0xBF, n⟩ := by
  rw [lead?_toUInt8 (by omega), if_neg (by omega), if_neg (by omega), if_neg (by omega), if_pos (by omega),
    Nat.add_sub_cancel_left]
  simp only [Nat.add_eq_left, Nat.add_left_cancel_iff (n := 0xE0) (m := n) (k := 13)]

/-- the first of four octets: longer forms and numbers beyond the last plane are left out -/
theorem lead?_four (h : n < 5) : lead? (0xF0 + n).toUInt8 =
    some ⟨3, if n = 0 then 0x90 else 0x80, if n = 4 then 0x8F else 0xBF, n⟩ := by
  rw [lead?_toUInt8 (by omega), if_neg (by omega), if_neg (by omega), if_neg (by omega), if_neg (by omega),
    if_pos (by omega), Nat.add_sub_cancel_left]
  simp only [Nat.add_eq_left, Nat.add_left_cancel_iff (n := 0xF0) (m := n) (k := 4)]

end

/-! ## Octets that follow -/

theorem tails_zero (low high : UInt8) (bits used : Nat) (s : Bytes) : tails 0 low high bits used s = .ok (bits, s) := by
  cases s <;> rfl

/-- an octet that follows adds its six bits -/
theorem tails_continuation {low high : UInt8} {m : Nat} (hm : m < 64) (hlow : low.toNat ≤ 0x80 + m)
    (hhigh : 0x80 + m ≤ high.toNat) (owed bits used : Nat) (s : Bytes) :
    tails (owed + 1) low high bits used ((0x80 + m).toUInt8 :: s) =
      tails owed 0x80 0xBF (64 * bits + m) (used + 1) s := by
  have hbyte := toNat_toUInt8 (n := 0x80 + m) (by omega)
  have hrange : low ≤ (0x80 + m).toUInt8 ∧ (0x80 + m).toUInt8 ≤ high := by
    rw [UInt8.le_iff_toNat_le, UInt8.le_iff_toNat_le, hbyte]
    exact ⟨hlow, hhigh⟩
  rw [tails, if_pos hrange, hbyte, Nat.add_sub_cancel_left]

/-- one within the usual range -/
theorem tails_usual {m : Nat} (hm : m < 64) (owed bits used : Nat) (s : Bytes) :
    tails (owed + 1) 0x80 0xBF bits used ((0x80 + m).toUInt8 :: s) =
      tails owed 0x80 0xBF (64 * bits + m) (used + 1) s := by
  have hlow : (0x80 : UInt8).toNat ≤ 0x80 + m := Nat.le_add_right 0x80 m
  have hhigh : 0x80 + m ≤ (0xBF : UInt8).toNat := Nat.add_le_add_left (Nat.le_of_lt_succ hm) 0x80
  exact tails_continuation hm hlow hhigh owed bits used s

/-- three octets give their number back; the narrower ranges leave out what they cannot hold or must not -/
theorem tails_three {n : Nat} (hn : 0x800 ≤ n) (hs : n < 0xD800 ∨ 0xDFFF < n) (s : Bytes) :
    tails 2 (if n / 4096 = 0 then 0xA0 else 0x80) (if n / 4096 = 13 then 0x9F else 0xBF) (n / 4096) 1
      ((0x80 + n / 64 % 64).toUInt8 :: (0x80 + n % 64).toUInt8 :: s) = .ok (n, s) := by
  have hlow : (if n / 4096 = 0 then 0xA0 else 0x80 : UInt8).toNat ≤ 0x80 + n / 64 % 64 := by
    split_ifs
    · change 0xA0 ≤ _
      omega
    · exact Nat.le_add_right 0x80 _
  have hhigh : 0x80 + n / 64 % 64 ≤ (if n / 4096 = 13 then 0x9F else 0xBF : UInt8).toNat := by
    split_ifs
    · change _ ≤ 0x9F
      omega
    · change _ ≤ 0xBF
      omega
  have hnumber : 64 * (64 * (n / 4096) + n / 64 % 64) + n % 64 = n := by omega
  rw [tails_continuation (by omega) hlow hhigh, tails_usual (by omega), tails_zero, hnumber]

/-- four octets give their number back -/
theorem tails_four {n : Nat} (hn : 0x10000 ≤ n) (hlimit : n < 0x110000) (s : Bytes) :
    tails 3 (if n / 262144 = 0 then 0x90 else 0x80) (if n / 262144 = 4 then 0x8F else 0xBF) (n / 262144) 1
      ((0x80 + n / 4096 % 64).toUInt8 :: (0x80 + n / 64 % 64).toUInt8 :: (0x80 + n % 64).toUInt8 :: s) =
        .ok (n, s) := by
  have hlow : (if n / 262144 = 0 then 0x90 else 0x80 : UInt8).toNat ≤ 0x80 + n / 4096 % 64 := by
    split_ifs
    · change 0x90 ≤ _
      omega
    · exact Nat.le_add_right 0x80 _
  have hhigh : 0x80 + n / 4096 % 64 ≤ (if n / 262144 = 4 then 0x8F else 0xBF : UInt8).toNat := by
    split_ifs
    · change _ ≤ 0x8F
      omega
    · change _ ≤ 0xBF
      omega
  have hnumber : 64 * (64 * (64 * (n / 262144) + n / 4096 % 64) + n / 64 % 64) + n % 64 = n := by omega
  rw [tails_continuation (by omega) hlow hhigh, tails_usual (by omega), tails_usual (by omega), tails_zero, hnumber]

/-! ## Code points -/

theorem decodeFrom_cons {b : UInt8} {l : Lead} {r rest : Bytes} {n : Nat} (hl : lead? b = some l)
    (ht : tails l.owed l.low l.high l.bits 1 r = .ok (n, rest)) (position : Nat) :
    decodeFrom position (b :: r) =
      (decodeFrom (position + 1 + l.owed) rest).map (CodePoint.ofNat n :: ·) := by
  rw [decodeFrom]
  split
  · rename_i hnone
    rw [hl] at hnone
    cases hnone
  · rename_i l' hl'
    obtain rfl : l = l' := Option.some.inj (hl.symm.trans hl')
    split
    · rename_i herror
      rw [ht] at herror
      cases herror
    · rename_i n' rest' hok
      obtain ⟨rfl, rfl⟩ := Prod.mk.inj (Except.ok.inj (ht.symm.trans hok))
      cases decodeFrom (position + 1 + l.owed) rest <;> rfl

/-- **A code point is read back**, and what follows it is left. -/
theorem decodeFrom_encodeOne {c : CodePoint} (hc : c.isSurrogate = false) (position : Nat) (s : Bytes) :
    decodeFrom position (encodeOne c ++ s) = (decodeFrom (position + (encodeOne c).length) s).map (c :: ·) := by
  obtain ⟨n, hn⟩ := c
  have hback : CodePoint.ofNat n = ⟨n, hn⟩ := by simp [CodePoint.ofNat, CodePoint.ofNat?, hn]
  have hsurrogate : n < 0xD800 ∨ 0xDFFF < n := by
    simp only [CodePoint.isSurrogate, Bool.and_eq_false_iff, decide_eq_false_iff_not] at hc
    omega
  simp only [encodeOne, ← hback]
  split_ifs with h1 h2 h3
  · have hlead : lead? n.toUInt8 = some ⟨0, 0x80, 0xBF, n⟩ := by rw [lead?_toUInt8 (by omega), if_pos h1]
    exact decodeFrom_cons hlead (tails_zero _ _ _ _ s) position
  · have htails : tails 1 0x80 0xBF (n / 64) 1 ((0x80 + n % 64).toUInt8 :: s) = .ok (n, s) := by
      rw [tails_usual (by omega), tails_zero, Nat.div_add_mod]
    exact decodeFrom_cons (lead?_two (by omega) (by omega)) htails position
  · exact decodeFrom_cons (lead?_three (by omega)) (tails_three (by omega) hsurrogate s) position
  · exact decodeFrom_cons (lead?_four (by omega)) (tails_four (by omega) hn s) position

/-! ## Texts -/

theorem decodeFrom_encodeAll {t : Text} (h : isEncodable t = true) (position : Nat) :
    decodeFrom position (encodeAll t) = .ok t := by
  rw [isEncodable_iff] at h
  induction t generalizing position with
  | nil =>
    rw [encodeAll, List.flatMap_nil, decodeFrom]
  | cons c t ih =>
    obtain ⟨hc, ht⟩ := List.forall_mem_cons.1 h
    rw [encodeAll, List.flatMap_cons, decodeFrom_encodeOne hc, ← encodeAll, ih ht]
    rfl

/-- **The octets of a text** give the text back. -/
theorem decode_encodeAll {t : Text} (h : isEncodable t = true) : decode (encodeAll t) = .ok t :=
  decodeFrom_encodeAll h 0

end Typings.Utf8
