/-
Line ends: what a file tells does not depend on how its lines end.

A text is read with every line end made one line feed, before anything else looks at it. So the octets of a text, of the
text with a carriage return before each line feed and of the text with carriage returns in their place are the same
descriptor or fail in the same way, down to the lines and columns of a message.
- `unifyNewlines_eq_self`, `unifyNewlines_pairs`, `unifyNewlines_returns`: the three ways to end lines are one.
- `ofBytes_congr`: octets are told by their text once its line ends are unified.
- `load_lineEnds`: loading does not tell the three apart.
-/
import Typings.Descriptor.Load
import Typings.Proofs.Text.Decoding

namespace Typings

/-! ## Line ends -/

namespace Text

/-- a text with another mark in place of each line feed -/
def withLineEnd (t mark : Text) : Text := t.flatMap fun c => if c = CodePoint.ofChar '\n' then mark else [c]

theorem withLineEnd_cons (c : CodePoint) (t mark : Text) :
    withLineEnd (c :: t) mark = (if c = CodePoint.ofChar '\n' then mark else [c]) ++ t.withLineEnd mark :=
  List.flatMap_cons

variable {t : Text}

theorem unifyNewlines_cons {c : CodePoint} (h : CodePoint.ofChar '\r' ≠ c) (t : Text) :
    unifyNewlines (c :: t) = c :: unifyNewlines t := by
  have hc : c.val ≠ 13 := fun hc => h (Fin.ext hc.symm)
  cases t <;> simp [unifyNewlines, hc]

/-- a carriage return that no line feed follows -/
theorem unifyNewlines_return (h : CodePoint.ofChar '\n' ∉ t) :
    unifyNewlines (CodePoint.ofChar '\r' :: t) = CodePoint.ofChar '\n' :: unifyNewlines t := by
  cases t with
  | nil => rfl
  | cons d r =>
    have hreturn : (CodePoint.ofChar '\r').val = 13 := rfl
    have hd : d.val ≠ 10 := fun hd => h (List.mem_cons.2 (Or.inl (Fin.ext hd.symm)))
    rw [unifyNewlines, if_pos hreturn, if_neg hd]
    rfl

/-- **A text without carriage returns** is as it is. -/
theorem unifyNewlines_eq_self (h : CodePoint.ofChar '\r' ∉ t) : unifyNewlines t = t := by
  induction t with
  | nil => rfl
  | cons c t ih =>
    rw [List.mem_cons, not_or] at h
    rw [unifyNewlines_cons h.1, ih h.2]

/-- **Carriage returns before the line feeds** go away. -/
theorem unifyNewlines_pairs (h : CodePoint.ofChar '\r' ∉ t) : (t.withLineEnd "\r\n").unifyNewlines = t := by
  induction t with
  | nil => rfl
  | cons c t ih =>
    rw [List.mem_cons, not_or] at h
    rw [withLineEnd_cons]
    split_ifs with hc
    · change CodePoint.ofChar '\n' :: unifyNewlines (withLineEnd t "\r\n") = _
      rw [ih h.2, hc]
    · rw [List.singleton_append, unifyNewlines_cons h.1, ih h.2]

theorem newline_not_mem_withLineEnd {mark : Text} (h : CodePoint.ofChar '\n' ∉ mark) (t : Text) :
    CodePoint.ofChar '\n' ∉ t.withLineEnd mark := by
  rw [withLineEnd, List.mem_flatMap]
  rintro ⟨c, -, hc⟩
  split_ifs at hc with hline
  · exact h hc
  · exact hline (List.mem_singleton.1 hc).symm

/-- **Carriage returns in place of the line feeds** are these again. -/
theorem unifyNewlines_returns (h : CodePoint.ofChar '\r' ∉ t) : (t.withLineEnd "\r").unifyNewlines = t := by
  induction t with
  | nil => rfl
  | cons c t ih =>
    rw [List.mem_cons, not_or] at h
    rw [withLineEnd_cons]
    split_ifs with hc
    · have hmark : CodePoint.ofChar '\n' ∉ ("\r" : Text) := by decide
      have hreturn := unifyNewlines_return (newline_not_mem_withLineEnd hmark t)
      rw [ih h.2, ← hc] at hreturn
      exact hreturn
    · rw [List.singleton_append, unifyNewlines_cons h.1, ih h.2]

end Text

theorem Utf8.isEncodable_withLineEnd {mark t : Text} (hmark : isEncodable mark = true) (h : isEncodable t = true) :
    isEncodable (t.withLineEnd mark) = true := by
  refine isEncodable_flatMap (t := t) fun c hc => ?_
  split_ifs
  · exact hmark
  · rw [isEncodable_iff, List.forall_mem_singleton]
    exact isEncodable_iff.1 h c hc

/-! ## Loading -/

namespace Descriptor

open Utf8

variable {p : Path}

/-- octets are told by their text once its line ends are unified -/
theorem ofBytes_congr {a b : Bytes} {s t : Text} (ha : decode a = .ok s) (hb : decode b = .ok t)
    (h : s.unifyNewlines = t.unifyNewlines) : ofBytes p a = ofBytes p b := by
  simp only [ofBytes, ha, hb, h]

/-- **Line ends do not matter.** Where the same path leads to the octets of a text without carriage returns, to those of
the text with one before each line feed, and to those of the text with one in place of each line feed, it loads the same
descriptor or fails in the same way, with the same message. -/
theorem load_lineEnds {t : Text} (hreturn : CodePoint.ofChar '\r' ∉ t) (ht : isEncodable t = true)
    {fs fsPairs fsReturns : FileSystem} (h : fs.readFile p.toText = .ok (encodeAll t))
    (hpairs : fsPairs.readFile p.toText = .ok (encodeAll (t.withLineEnd "\r\n")))
    (hreturns : fsReturns.readFile p.toText = .ok (encodeAll (t.withLineEnd "\r"))) :
    load fsPairs p = load fs p ∧ load fsReturns p = load fs p := by
  have htext := decode_encodeAll ht
  have hself := Text.unifyNewlines_eq_self hreturn
  have hmarked (mark : Text) (hmark : isEncodable mark = true) := decode_encodeAll (isEncodable_withLineEnd hmark ht)
  simp only [load, h, hpairs, hreturns]
  constructor
  · exact ofBytes_congr (hmarked "\r\n" rfl) htext ((Text.unifyNewlines_pairs hreturn).trans hself.symm)
  · exact ofBytes_congr (hmarked "\r" rfl) htext ((Text.unifyNewlines_returns hreturn).trans hself.symm)

/-- **A comma too many** on the second of three lines is reported at the third, however the lines end. -/
theorem load_lineEnds_malformed :
    let t : Text := "\x7b\n  \"name\": \"A\",\n\x7d\n"
    let fs (s : Text) : FileSystem := ⟨[([("A.json" : Text)], .file (encodeAll s) 0o644)], [], 0o022, [], .usual⟩
    let p := Path.ofText "A.json"
    let e : Trouble := .failure (Failure.of (.descriptor (some p))
      ("Invalid JSON in A.json: Expecting property name enclosed in double quotes: " ++
        ("line 3 column 1 (char 17)" : Text)))
    CodePoint.ofChar '\r' ∉ t ∧ isEncodable t = true ∧
      (fs t).readFile p.toText = .ok (encodeAll t) ∧
      (fs (t.withLineEnd "\r\n")).readFile p.toText = .ok (encodeAll (t.withLineEnd "\r\n")) ∧
      (fs (t.withLineEnd "\r")).readFile p.toText = .ok (encodeAll (t.withLineEnd "\r")) ∧
      load (fs t) p = .error e ∧ load (fs (t.withLineEnd "\r\n")) p = .error e ∧
      load (fs (t.withLineEnd "\r")) p = .error e := by
  intro t fs p e
  have hreturn : CodePoint.ofChar '\r' ∉ t := by decide
  have ht : isEncodable t = true := by decide
  have h : (fs t).readFile p.toText = .ok (encodeAll t) := by decide +kernel
  have hpairs : (fs (t.withLineEnd "\r\n")).readFile p.toText = .ok (encodeAll (t.withLineEnd "\r\n")) := by
    decide +kernel
  have hreturns : (fs (t.withLineEnd "\r")).readFile p.toText = .ok (encodeAll (t.withLineEnd "\r")) := by
    decide +kernel
  have hload : load (fs t) p = .error e := by decide +kernel
  obtain ⟨hp, hr⟩ := load_lineEnds hreturn ht h hpairs hreturns
  exact ⟨hreturn, ht, h, hpairs, hreturns, hload, hp.trans hload, hr.trans hload⟩

end Descriptor

end Typings
