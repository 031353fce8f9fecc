/-
Octets of texts: a text can be encoded if its pieces can.

- `encode_of_isEncodable`: a text without surrogates is encoded code point by code point.
- `isEncodable_append`, `isEncodable_join`: it has none if its pieces have none.
- `isEncodable_toLower`: the case of its letters does not matter.
-/
import Typings.Proofs.Text.Pieces
import Typings.Text.Utf8

namespace Typings.Utf8

variable {t u : Text}

theorem isEncodable_iff : isEncodable t = true ↔ ∀ c ∈ t, c.isSurrogate = false := by
  simp [isEncodable]

theorem firstRun_of_isEncodable (h : isEncodable t = true) (position : Nat) : firstRun position t = none := by
  rw [isEncodable_iff] at h
  induction t generalizing position with
  | nil => rfl
  | cons c t ih =>
    obtain ⟨hc, ht⟩ := List.forall_mem_cons.1 h
    rw [firstRun, hc, if_neg Bool.false_ne_true, ih ht]

theorem encode_of_isEncodable (h : isEncodable t = true) : encode t = .ok (encodeAll t) := by
  rw [encode, firstRun_of_isEncodable h]

theorem firstRun_isSome {c : CodePoint} (hc : c ∈ t) (hs : c.isSurrogate = true) (position : Nat) :
    (firstRun position t).isSome = true := by
  induction t generalizing position with
  | nil => cases hc
  | cons d t ih =>
    rw [firstRun]
    split_ifs with hd
    · rfl
    · rcases List.mem_cons.1 hc with rfl | hc
      · exact absurd hs hd
      · exact ih hc _

theorem isEncodable_of_encode {octets : Bytes} (h : encode t = .ok octets) : isEncodable t = true := by
  rw [isEncodable_iff]
  intro c hc
  by_contra hs
  have hrun := firstRun_isSome hc (by simpa using hs) 0
  unfold encode at h
  split at h
  · cases h
  · rename_i hnone
    rw [hnone] at hrun
    cases hrun

/-- a text without halves of surrogate pairs needs no escapes for them -/
theorem escapeSurrogates_eq_self (h : isEncodable t = true) : escapeSurrogates t = t := by
  rw [isEncodable_iff] at h
  rw [escapeSurrogates, List.flatMap_congr fun c hc => if_neg (by simp [h c hc]), List.flatMap_singleton']

theorem isEncodable_append : isEncodable (t ++ u) = true ↔ isEncodable t = true ∧ isEncodable u = true := by
  simp [isEncodable]

theorem isEncodable_flatMap {f : CodePoint → Text} (h : ∀ c ∈ t, isEncodable (f c) = true) :
    isEncodable (t.flatMap f) = true := by
  rw [isEncodable_iff]
  intro d hd
  obtain ⟨c, hc, hd⟩ := List.mem_flatMap.1 hd
  exact isEncodable_iff.1 (h c hc) d hd

theorem isEncodable_join {sep : Text} {ts : List Text} (hsep : isEncodable sep = true)
    (h : ∀ t ∈ ts, isEncodable t = true) : isEncodable (Text.join sep ts) = true := by
  rw [isEncodable_iff]
  intro c hc
  rcases Text.mem_join hc with hc | ⟨t, ht, hc⟩
  · exact isEncodable_iff.1 hsep c hc
  · exact isEncodable_iff.1 (h t ht) c hc

theorem isEncodable_toLower (t : Text) : isEncodable (Text.toLower t) = isEncodable t := by
  have hlow : ∀ c : CodePoint, c.val < 0xD800 → c.isSurrogate = false := by
    intro c hc
    simp only [CodePoint.isSurrogate, Bool.and_eq_false_iff, decide_eq_false_iff_not]
    omega
  have hone : ∀ c : CodePoint, c.toLower.isSurrogate = c.isSurrogate := by
    intro c
    unfold CodePoint.toLower
    split_ifs with h
    · have hval : (CodePoint.ofNat (c.val + 32)).val = c.val + 32 := by
        have hlt : c.val + 32 < 0x110000 := by omega
        simp [CodePoint.ofNat, CodePoint.ofNat?, hlt]
      rw [hlow _ (by omega), hlow c (by omega)]
    · rfl
  simp only [isEncodable, Text.toLower, List.any_map, Function.comp_def, hone]

end Typings.Utf8
