/-
Octets of JSON texts: what is written can be encoded if each text in it can.

The writer adds nothing that has no octets, and it writes as they are all code points above the space but two.
- `isEncodable_string`: a text in its quotes can be encoded if it can be without them.
- `isEncodable_write`: so can a value, with all that is in it.
-/
import Typings.Proofs.Json.RoundTrip
import Typings.Proofs.Text.Octets

namespace Typings.Json

open Utf8

variable {v : Value} {level : Nat}

theorem isEncodable_escaped {c : CodePoint} (h : c.isSurrogate = false) : isEncodable (escaped c) = true := by
  have hhex : ∀ n < 0x20, isEncodable ("\\u" ++ Text.hex 4 n) = true := by decide
  unfold escaped
  split_ifs with _ _ _ _ _ _ _ hlow <;> first | rfl | skip
  · exact hhex _ hlow
  · rw [isEncodable_iff, List.forall_mem_singleton]
    exact h

theorem isEncodable_string {t : Text} (h : isEncodable t = true) : isEncodable (string t) = true := by
  rw [string, isEncodable_append, isEncodable_append]
  refine ⟨⟨rfl, isEncodable_flatMap fun c hc => isEncodable_escaped ?_⟩, rfl⟩
  exact isEncodable_iff.1 h c hc

theorem isEncodable_indent (level : Nat) : isEncodable (indent level) = true := by
  rw [isEncodable_iff]
  intro c hc
  rw [List.eq_of_mem_replicate hc]
  rfl

theorem isEncodable_block {opening closing : Text} {ts : List Text} (ho : isEncodable opening = true)
    (hc : isEncodable closing = true) (h : ∀ t ∈ ts, isEncodable t = true) :
    isEncodable (block opening closing level ts) = true := by
  have hjoin : isEncodable (Text.join ",\n" (ts.map fun l => indent (level + 1) ++ l)) = true := by
    apply isEncodable_join rfl
    intro t ht
    obtain ⟨l, hl, rfl⟩ := List.mem_map.1 ht
    exact isEncodable_append.2 ⟨isEncodable_indent _, h l hl⟩
  have hline : isEncodable "\n" = true := rfl
  unfold block
  split_ifs
  · exact isEncodable_append.2 ⟨ho, hc⟩
  · simp only [isEncodable_append, ho, hc, hline, hjoin, isEncodable_indent, and_self]

theorem isEncodable_ofInt (n : Int) : isEncodable (Text.ofInt n) = true := by
  have hdigits : ∀ n, isEncodable (Text.ofNat n) = true := by
    intro n
    rw [isEncodable_iff]
    intro c hc
    have hdigit := Text.isDigit_of_mem_ofNat hc
    simp only [CodePoint.isDigit, Bool.and_eq_true, decide_eq_true_eq] at hdigit
    simp only [CodePoint.isSurrogate, Bool.and_eq_false_iff, decide_eq_false_iff_not]
    omega
  cases n with
  | ofNat n => exact hdigits n
  | negSucc n => exact isEncodable_append.2 ⟨rfl, hdigits (n + 1)⟩

/-- a leaf that is read back and has octets -/
structure IsPortable (v : Value) : Prop where
  exact : IsExact v
  octets : ∀ t, v = .text t → isEncodable t = true

theorem isEncodable_leaf (h : IsPortable v) : isEncodable (write level v) = true := by
  obtain ⟨hv, htext⟩ := h
  cases hv with
  | null => rfl
  | bool b => cases b <;> rfl
  | int => exact isEncodable_ofInt _
  | text t => exact isEncodable_string (htext t rfl)

/-- **A value** can be encoded if all texts in it can. -/
theorem isEncodable_write (h : Value.Composed (isEncodable · = true) IsPortable v) (level : Nat) :
    isEncodable (write level v) = true := by
  induction h generalizing level with
  | leaf h => exact isEncodable_leaf h
  | list _ ih =>
    rw [write, writeItems_eq]
    apply isEncodable_block rfl rfl
    intro t ht
    obtain ⟨w, hw, rfl⟩ := List.mem_map.1 ht
    exact ih w hw _
  | map hk _ _ ih =>
    rw [write, writeEntries_eq]
    apply isEncodable_block rfl rfl
    intro t ht
    obtain ⟨e, he, rfl⟩ := List.mem_map.1 ht
    simp only [writeEntry, isEncodable_append]
    exact ⟨⟨isEncodable_string (hk e he), rfl⟩, ih e he _⟩

end Typings.Json
