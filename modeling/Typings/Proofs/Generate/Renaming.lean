/-
Renaming: the path of a declaration, from that of its descriptor.

The last name of the path takes another suffix and all before it stays, so a declaration tells its descriptor, whatever
the two suffixes have in common. A name that the suffixes leave as a lone dot is none.
- `withName_eq_error_iff`: a name without a slash replaces the last one of a path unless it is empty or a lone dot.
- `outputName_injective`, `outputName_ne`: names of declarations, among themselves and beside their descriptors'.
- `outputPath_injective`: descriptors with the same declaration are the same.
- `outputPath_apart`: where a declaration goes, and when there is no such place.
-/
import Typings.Proofs.Generate.Output

namespace Typings

namespace Path

variable {p : Path} {n : Text}

@[simp] theorem name_child (p : Path) (n : Text) : (p.child n).name = n := by simp [name, child]

@[simp] theorem parent_child (p : Path) (n : Text) : (p.child n).parent = p := by simp [parent, child]

theorem child_parent_name (h : p.names ≠ []) : p.parent.child p.name = p := (eq_append_name h).symm

/-- a text without a slash is a name unless it is empty or a lone dot -/
theorem isName_iff_of_slash_not_mem (h : slash ∉ n) : isName n = true ↔ n ≠ [] ∧ n ≠ ("." : Text) := by
  constructor
  · intro hname
    refine ⟨isName_ne_nil hname, ?_⟩
    rintro rfl
    exact absurd hname (by decide)
  · rintro ⟨hne, hdot⟩
    have hplain : IsPlain n := ⟨hne, h, hdot⟩
    obtain ⟨c, r, rfl⟩ := List.exists_cons_of_ne_nil hne
    have hc : c ≠ slash := fun hc => h (hc ▸ List.mem_cons_self)
    exact isName_iff.2 ⟨by simp [rootOf, hc], by rw [namesOf_plain hplain]; rfl, hplain.last.2⟩

theorem withName_eq_error_iff (hp : p.names ≠ []) (hn : slash ∉ n) {fault : NameFault} :
    p.withName n = .error fault ↔ (n = [] ∨ n = ("." : Text)) ∧ fault = .invalidName n := by
  have hname : ¬ isName n = true ↔ n = [] ∨ n = ("." : Text) := by
    rw [isName_iff_of_slash_not_mem hn, ← not_or, not_not]
  rw [← hname, withName, if_neg (by simpa using hp)]
  split_ifs with h
  · simp [h]
  · simp [h, eq_comm]

/-- the paths that are read have no slash in their last name -/
theorem slash_not_mem_name_ofText (t : Text) : slash ∉ (ofText t).name := by
  intro hmem
  cases hl : (namesOf t).getLast? with
  | none => simp [name, ofText, hl] at hmem
  | some n =>
    have hplain : IsPlain n := plain_of_mem_namesOf (List.mem_of_getLast? hl)
    simp only [name, ofText, hl, Option.getD_some] at hmem
    exact hplain.2.1 hmem

end Path

namespace Generate

variable {settings : Settings} {p q o : Path} {m n : Text}

/-! ## Names -/

/-- **Different descriptors have declarations of different names.** -/
theorem outputName_injective (hs : settings.descriptorSuffix ≠ []) (hm : m.endsWith settings.descriptorSuffix = true)
    (hn : n.endsWith settings.descriptorSuffix = true) (h : outputName settings m = outputName settings n) : m = n := by
  rw [← stem_append hs hm, ← stem_append hs hn, List.append_cancel_right h]

/-- a declaration does not have the name of its descriptor -/
theorem outputName_ne (hs : settings.descriptorSuffix ≠ []) (hne : settings.descriptorSuffix ≠ settings.declarationSuffix)
    (hn : n.endsWith settings.descriptorSuffix = true) : outputName settings n ≠ n := by
  intro h
  have hsuffix : outputName settings n = stem n settings.descriptorSuffix ++ settings.descriptorSuffix := by
    rw [h, stem_append hs hn]
  exact hne (List.append_cancel_left hsuffix).symm

/-! ## Paths -/

theorem names_ne_nil_of_suffixed {suffix : Text} (hs : suffix ≠ []) (h : p.name.endsWith suffix = true) :
    p.names ≠ [] := by
  intro hnil
  rw [Path.name, hnil, Text.endsWith, List.isSuffixOf_iff_suffix] at h
  exact hs (List.eq_nil_of_suffix_nil h)

theorem eq_child_of_outputPath (h : outputPath p settings = .ok o) : o = p.parent.child (outputName settings p.name) :=
  (Path.withName_eq_ok h).2.2

/-- **A declaration tells its descriptor.** -/
theorem outputPath_injective (hs : settings.descriptorSuffix ≠ []) (hp : p.name.endsWith settings.descriptorSuffix = true)
    (hq : q.name.endsWith settings.descriptorSuffix = true) (ho : outputPath p settings = .ok o)
    (ho' : outputPath q settings = .ok o) : p = q := by
  have hsame := (eq_child_of_outputPath ho).symm.trans (eq_child_of_outputPath ho')
  have hparent : p.parent = q.parent := by simpa using congrArg Path.parent hsame
  have hname : p.name = q.name := outputName_injective hs hp hq (by simpa using congrArg Path.name hsame)
  calc p = p.parent.child p.name := (Path.child_parent_name (names_ne_nil_of_suffixed hs hp)).symm
    _ = q.parent.child q.name := by rw [hparent, hname]
    _ = q := Path.child_parent_name (names_ne_nil_of_suffixed hs hq)

/-- a declaration has no path if its name is a lone dot, and only then -/
theorem outputPath_eq_error_iff (hs : settings.descriptorSuffix ≠ []) (hd : settings.declarationSuffix ≠ [])
    (hfree : Path.slash ∉ settings.declarationSuffix) (hp : p.name.endsWith settings.descriptorSuffix = true)
    (hn : Path.slash ∉ p.name) {fault : Path.NameFault} :
    outputPath p settings = .error fault ↔ outputName settings p.name = ("." : Text) ∧ fault = .invalidName "." := by
  have hne : outputName settings p.name ≠ [] := by simp [outputName, hd]
  change p.withName (outputName settings p.name) = .error fault ↔ _
  rw [Path.withName_eq_error_iff (names_ne_nil_of_suffixed hs hp) (slash_not_mem_outputName hn hfree)]
  constructor
  · rintro ⟨hnil | hdot, rfl⟩
    · exact absurd hnil hne
    · exact ⟨hdot, by rw [hdot]⟩
  · rintro ⟨hdot, rfl⟩
    exact ⟨Or.inr hdot, by rw [hdot]⟩

/-- **Declarations are kept apart.** With suffixes that are not empty and differ, two descriptors whose declarations go
to one path are the same. A declaration goes beside its descriptor and never in its place, to the name in which the one
suffix stands for the other at the end; where no slash stands in the names of either, there is no such path exactly if
that name is a lone dot. -/
theorem outputPath_apart (hs : settings.descriptorSuffix ≠ []) (hd : settings.declarationSuffix ≠ [])
    (hne : settings.descriptorSuffix ≠ settings.declarationSuffix) (hfree : Path.slash ∉ settings.declarationSuffix)
    (hp : p.name.endsWith settings.descriptorSuffix = true) (hq : q.name.endsWith settings.descriptorSuffix = true) :
    (∀ o, outputPath p settings = .ok o → outputPath q settings = .ok o → p = q) ∧
    ∃ a, p.name = a ++ settings.descriptorSuffix ∧
      (∀ o, outputPath p settings = .ok o →
        o.parent = p.parent ∧ o.name = a ++ settings.declarationSuffix ∧ o ≠ p) ∧
      (Path.slash ∉ p.name → ∀ fault, outputPath p settings = .error fault ↔
        a ++ settings.declarationSuffix = ("." : Text) ∧ fault = .invalidName ".") := by
  refine ⟨fun o ho ho' => outputPath_injective hs hp hq ho ho', stem p.name settings.descriptorSuffix,
    (stem_append hs hp).symm, ?_, fun hn fault => outputPath_eq_error_iff hs hd hfree hp hn⟩
  intro o ho
  obtain rfl := eq_child_of_outputPath ho
  refine ⟨Path.parent_child _ _, Path.name_child _ _, fun hsame => outputName_ne hs hne hp ?_⟩
  simpa using congrArg Path.name hsame

/-- suffixes that overlap, and names that repeat them -/
theorem outputPath_apart_repeated :
    let settings : Settings := ⟨"d", ".json", ".d.json", false⟩
    let p := Path.ofText "/x/types.json/Foo.json.json"
    let q := Path.ofText "/x/types.json/Foo.json"
    settings.descriptorSuffix ≠ [] ∧ settings.declarationSuffix ≠ [] ∧
      settings.descriptorSuffix ≠ settings.declarationSuffix ∧ Path.slash ∉ settings.declarationSuffix ∧
      p.name.endsWith settings.descriptorSuffix = true ∧ q.name.endsWith settings.descriptorSuffix = true ∧
      outputPath p settings = .ok (Path.ofText "/x/types.json/Foo.json.d.json") ∧
      outputPath q settings = .ok (Path.ofText "/x/types.json/Foo.d.json") ∧
      (∀ o, outputPath p settings = .ok o → outputPath q settings = .ok o → p = q) ∧
      ∃ a, p.name = a ++ settings.descriptorSuffix ∧
        (∀ o, outputPath p settings = .ok o →
          o.parent = p.parent ∧ o.name = a ++ settings.declarationSuffix ∧ o ≠ p) ∧
        ∀ fault, outputPath p settings = .error fault ↔
          a ++ settings.declarationSuffix = ("." : Text) ∧ fault = .invalidName "." := by
  intro settings p q
  have hs : settings.descriptorSuffix ≠ [] := by decide
  have hd : settings.declarationSuffix ≠ [] := by decide
  have hne : settings.descriptorSuffix ≠ settings.declarationSuffix := by decide
  have hfree : Path.slash ∉ settings.declarationSuffix := by decide
  have hp : p.name.endsWith settings.descriptorSuffix = true := by decide
  have hq : q.name.endsWith settings.descriptorSuffix = true := by decide
  obtain ⟨hsame, a, ha, ho, herror⟩ := outputPath_apart hs hd hne hfree hp hq
  exact ⟨hs, hd, hne, hfree, hp, hq, by decide, by decide, hsame, a, ha, ho,
    herror (Path.slash_not_mem_name_ofText _)⟩

/-- the one name that is refused -/
example : outputPath (Path.ofText "x/.json") ⟨"x", ".json", ".", false⟩ = .error (.invalidName ".") := by decide

end Generate
end Typings
