/-
Declarations beside descriptors: the name and the place of the file that a descriptor's declaration goes to.

- `outputPath_eq_ok`: the declaration goes beside the descriptor, to the name that the suffixes make of its own.
- `separate_iff`: the suffixes with which no descriptor has its declaration at the name of a descriptor.
- `placeName_injective`: different descriptors of a directory have declarations at different names.
- `place_of_renamesTo`: the place of a declaration below a directory.
-/
import Typings.Generate
import Typings.Proofs.FileSystem.AllOrNothing
import Typings.Proofs.FileSystem.Walk

namespace Typings

namespace Text

theorem splitAt_head_ne_nil {sep : CodePoint} {c : CodePoint} {t : Text} (h : c ≠ sep) :
    ∃ p ps, splitAt sep (c :: t) = (c :: p) :: ps := by
  obtain ⟨p, ps, hp⟩ := List.exists_cons_of_ne_nil (splitAt_ne_nil sep t)
  exact ⟨p, ps, by simp [splitAt, h, hp]⟩

theorem dropSuffix_append {t suffix : Text} (h : t.endsWith suffix = true) : t.dropSuffix suffix ++ suffix = t := by
  obtain ⟨a, rfl⟩ := List.isSuffixOf_iff_suffix.1 h
  simp [dropSuffix, endsWith]

end Text

namespace Path

theorem rootOf_eq_nil {t : Text} (h : rootOf t = []) (ht : t ≠ []) : ∃ c r, t = c :: r ∧ c ≠ slash := by
  obtain ⟨c, r, rfl⟩ := List.exists_cons_of_ne_nil ht
  refine ⟨c, r, rfl, fun hc => ?_⟩
  subst hc
  exact rootOf_cons_slash r h

end Path

namespace Generate

open FileSystem

variable {settings : Settings}

/-! ## Names -/

/-- the name that a declaration is written to, as the suffixes make it -/
def outputName (settings : Settings) (n : Text) : Text :=
  stem n settings.descriptorSuffix ++ settings.declarationSuffix

theorem stem_append {n suffix : Text} (hs : suffix ≠ []) (h : n.endsWith suffix = true) : stem n suffix ++ suffix = n := by
  rw [stem, if_neg (by simpa using hs), Text.dropSuffix_append h]

theorem slash_not_mem_stem {n : Text} (h : Path.slash ∉ n) (suffix : Text) : Path.slash ∉ stem n suffix := by
  unfold stem
  split_ifs with hs
  · simp
  · unfold Text.dropSuffix
    split_ifs
    · exact fun hm => h (List.mem_of_mem_take hm)
    · exact h

theorem slash_not_mem_outputName {n : Text} (h : Path.slash ∉ n) (hfree : Path.slash ∉ settings.declarationSuffix) :
    Path.slash ∉ outputName settings n := by
  simp only [outputName, List.mem_append, not_or]
  exact ⟨slash_not_mem_stem h _, hfree⟩

/-- suffixes of which neither ends with the other -/
def Separate (settings : Settings) : Prop :=
  ¬ settings.descriptorSuffix <:+ settings.declarationSuffix ∧ ¬ settings.declarationSuffix <:+ settings.descriptorSuffix

instance (settings : Settings) : Decidable (Separate settings) :=
  inferInstanceAs (Decidable (¬ settings.descriptorSuffix <:+ settings.declarationSuffix ∧
    ¬ settings.declarationSuffix <:+ settings.descriptorSuffix))

theorem Separate.descriptorSuffix_ne_nil (sep : Separate settings) : settings.descriptorSuffix ≠ [] :=
  fun h => sep.1 (h ▸ List.nil_suffix)

theorem Separate.outputName (h : Separate settings) (n : Text) :
    (outputName settings n).endsWith settings.descriptorSuffix = false := by
  by_contra hends
  have hs : settings.descriptorSuffix <:+ Generate.outputName settings n :=
    List.isSuffixOf_iff_suffix.1 (by simpa [Text.endsWith] using hends)
  rcases List.suffix_or_suffix_of_suffix hs (List.suffix_append _ _) with h1 | h1
  · exact h.1 h1
  · exact h.2 h1

/-- **Suffixes are separate** exactly when no descriptor has a declaration with the name of a descriptor. -/
theorem separate_iff (hs : settings.descriptorSuffix ≠ []) : Separate settings ↔
    ∀ n : Text, n.endsWith settings.descriptorSuffix = true →
      (outputName settings n).endsWith settings.descriptorSuffix = false := by
  refine ⟨fun h n _ => h.outputName n, fun h => ?_⟩
  -- the name that has a given stem
  have named : ∀ a : Text, (a ++ settings.declarationSuffix).endsWith settings.descriptorSuffix = false := by
    intro a
    have hn : (a ++ settings.descriptorSuffix).endsWith settings.descriptorSuffix = true :=
      List.isSuffixOf_iff_suffix.2 (List.suffix_append _ _)
    have hstem : stem (a ++ settings.descriptorSuffix) settings.descriptorSuffix = a :=
      List.append_cancel_right (stem_append hs hn)
    simpa only [outputName, hstem] using h _ hn
  constructor
  · intro hsuffix
    have hnone := named []
    rw [List.nil_append, Text.endsWith, List.isSuffixOf_iff_suffix.2 hsuffix] at hnone
    cases hnone
  · rintro ⟨a, ha⟩
    have hself := named a
    rw [ha, Text.endsWith, List.isSuffixOf_iff_suffix.2 List.suffix_rfl] at hself
    cases hself

/-- the name under which a declaration then stands -/
def placeName (settings : Settings) (n : Text) : Text := ((Path.namesOf (outputName settings n)).head?).getD []

theorem namesOf_outputName {n : Text} (h : Path.isName (outputName settings n) = true) :
    Path.namesOf (outputName settings n) = [placeName settings n] ∧ Path.IsPlain (placeName settings n) := by
  obtain ⟨c, hc⟩ := List.length_eq_one_iff.1 (Path.isName_iff.1 h).2.1
  have hp : placeName settings n = c := by simp [placeName, hc]
  rw [hp, hc]
  exact ⟨rfl, Path.plain_of_mem_namesOf (t := outputName settings n) (by simp [hc])⟩

theorem stepsOf_outputName {n : Text} (h : Path.isName (outputName settings n) = true) :
    stepsOf (outputName settings n) = placeName settings n :: Path.finalDot (outputName settings n) := by
  rw [Path.stepsOf_eq, (namesOf_outputName h).1]
  rfl

theorem eq_dot_of_mem_finalDot {t m : Text} (h : m ∈ Path.finalDot t) : m = ("." : Text) := by
  unfold Path.finalDot at h
  split_ifs at h
  · simpa using h
  · simp at h

/-- the first of the pieces is a name, or a lone dot that is none -/
theorem filter_first {q : Text} (hq : q ≠ []) (ds : List Text) :
    (q :: ds).filter (fun n => n != [] && n != ("." : Text)) =
      (if q = ("." : Text) then [] else [q]) ++ ds.filter fun n => n != [] && n != ("." : Text) := by
  rw [List.filter_cons]
  split_ifs with h1 h2 h2
  · simp [h2] at h1
  · rfl
  · rfl
  · exact absurd (by simpa [hq] using h1) h2

/-- **Different descriptors have different declarations.** -/
theorem placeName_injective (hs : settings.descriptorSuffix ≠ []) {m n : Text} (hm : Path.slash ∉ m)
    (hn : Path.slash ∉ n) (hms : m.endsWith settings.descriptorSuffix = true)
    (hns : n.endsWith settings.descriptorSuffix = true) (hmo : Path.isName (outputName settings m) = true)
    (hno : Path.isName (outputName settings n) = true) (h : placeName settings m = placeName settings n) : m = n := by
  -- the first piece of a name is its stem and the first piece of the suffix; it is a name of its own or a lone dot
  obtain ⟨d, ds, hd⟩ := List.exists_cons_of_ne_nil (Text.splitAt_ne_nil Path.slash settings.declarationSuffix)
  have first : ∀ t : Text, Path.slash ∉ t → Path.isName (outputName settings t) = true →
      stem t settings.descriptorSuffix ++ d ≠ [] ∧
        [placeName settings t] = (if stem t settings.descriptorSuffix ++ d = ("." : Text) then []
          else [stem t settings.descriptorSuffix ++ d]) ++ ds.filter fun n => n != [] && n != ("." : Text) := by
    intro t ht hto
    have hsplit := Text.splitAt_append_of_not_mem (slash_not_mem_stem ht settings.descriptorSuffix) hd
    have hne : stem t settings.descriptorSuffix ++ d ≠ [] := by
      obtain ⟨c, r, hc, hcs⟩ := Path.rootOf_eq_nil (Path.isName_iff.1 hto).1 (Path.isName_ne_nil hto)
      obtain ⟨p, ps, hp⟩ := Text.splitAt_head_ne_nil (t := r) hcs
      rw [← hc, outputName, hsplit, List.cons.injEq] at hp
      rw [hp.1]
      exact List.cons_ne_nil _ _
    refine ⟨hne, ?_⟩
    rw [← (namesOf_outputName hto).1, Path.namesOf, outputName, hsplit, filter_first hne]
  obtain ⟨hm1, hm2⟩ := first m hm hmo
  obtain ⟨hn1, hn2⟩ := first n hn hno
  rw [h, hn2] at hm2
  have hsame : stem m settings.descriptorSuffix ++ d = stem n settings.descriptorSuffix ++ d := by
    split_ifs at hm2 with h1 h2 h2
    · rw [h1, h2]
    · simp at hm2
    · simp at hm2
    · simpa using hm2.symm
  rw [← stem_append hs hms, ← stem_append hs hns, List.append_cancel_right hsame]

/-! ## Places -/

/-- a descriptor with a name, in directories below the one that a path leads to -/
structure Listed (fs : FileSystem) (root : Path) (l : Location) (suffix : Text) (p : Path) (dirs : List Text)
    (n : Text) : Prop where
  path : p = descend root (dirs ++ [n])
  file : ∃ content mode, fs.find? (l ++ dirs ++ [n]) = some (.file content mode)
  suffixed : n.endsWith suffix = true

variable {fs : FileSystem} {root : Path} {l : Location} {p o : Path} {dirs : List Text} {n : Text}

theorem outputPath_eq_ok (h : Listed fs root l settings.descriptorSuffix p dirs n)
    (ho : outputPath p settings = .ok o) :
    Path.isName (outputName settings n) = true ∧ o = ⟨root.root, root.names ++ dirs ++ [outputName settings n]⟩ := by
  obtain rfl := h.path
  unfold outputPath at ho
  rw [descend_name root (by simp)] at ho
  obtain ⟨-, hname, rfl⟩ := Path.withName_eq_ok ho
  simp only [List.getLast?_concat, Option.getD_some] at hname ⊢
  refine ⟨hname, ?_⟩
  simp only [Path.child, Path.parent, descend, outputName, Path.mk.injEq, true_and]
  rw [← List.append_assoc, List.dropLast_concat]

/-- the path of a declaration is as proper as that of its descriptor -/
theorem outputPath_proper (hp : p.IsProper) (ho : outputPath p settings = .ok o) : o.IsProper := by
  obtain ⟨-, hname, rfl⟩ := Path.withName_eq_ok ho
  refine ⟨hp.1, fun m hm => ?_⟩
  rcases List.mem_append.1 hm with hm | hm
  · exact hp.2 m (List.mem_of_mem_dropLast hm)
  · rw [List.mem_singleton.1 hm]
    exact ⟨Path.isName_ne_nil hname, (Path.isName_iff.1 hname).2.2⟩

theorem Listed.isProper {suffix : Text} (h : Listed fs root l suffix p dirs n) (hl : LeadsTo fs root l)
    (wf : fs.WellFormed) : p.IsProper := by
  obtain ⟨content, mode, hf⟩ := h.file
  rw [h.path]
  refine ⟨hl.slashes, fun m hm => ?_⟩
  rcases List.mem_append.1 hm with hm | hm
  · exact (hl.plain m hm).last
  · exact (isPlain_of_isEntryName (wf.name_ok hf (by simpa using Or.inr (List.mem_append.1 hm)))).last

theorem outputPath_isProper (hl : LeadsTo fs root l) (wf : fs.WellFormed)
    (h : Listed fs root l settings.descriptorSuffix p dirs n) (ho : outputPath p settings = .ok o) : o.IsProper :=
  outputPath_proper (h.isProper hl wf) ho

/-- a name that is followed to the end, and not up, is the place's name -/
theorem stepsOf_of_named {ns : List Text} (h : Path.isName (outputName settings n) = true)
    (hn : (match (ns ++ stepsOf (outputName settings n)).getLast? with
      | none => true
      | some name => name == ("." : Text) || name == (".." : Text)) = false) :
    stepsOf (outputName settings n) = [placeName settings n] ∧ placeName settings n ≠ (".." : Text) ∧
      placeName settings n = Text.lastPiece Path.slash (outputName settings n) := by
  have hlast := Path.stepsOf_getLast?
    (Path.lastPiece_ne_nil (Path.isName_ne_nil h) (Path.isName_iff.1 h).2.2)
  have hsteps := stepsOf_outputName h
  have hne : stepsOf (outputName settings n) ≠ [] := by rw [hsteps]; exact List.cons_ne_nil _ _
  rw [List.getLast?_append_of_ne_nil _ hne, hlast] at hn
  simp only [Bool.or_eq_false_iff, beq_eq_false_iff_ne, ne_eq] at hn
  have hdot : Path.finalDot (outputName settings n) = [] := by
    by_contra hd
    have hmem := List.mem_of_getLast? ((List.getLast?_append_of_ne_nil [placeName settings n] hd).symm.trans
      ((congrArg List.getLast? hsteps).symm.trans hlast))
    exact hn.1 (eq_dot_of_mem_finalDot hmem)
  rw [hsteps, hdot] at hlast ⊢
  have hc : placeName settings n = Text.lastPiece Path.slash (outputName settings n) := by simpa using hlast
  exact ⟨rfl, hc ▸ hn.2, hc⟩

/-- **The place of a declaration** is beside its descriptor, under the name that the suffixes make. -/
theorem place_of_renamesTo (wf : fs.WellFormed) (hl : LeadsTo fs root l)
    (h : Listed fs root l settings.descriptorSuffix p dirs n) (ho : outputPath p settings = .ok o) {k : Location}
    (hk : Replace.RenamesTo fs o k) :
    k = l ++ dirs ++ [placeName settings n] ∧
      placeName settings n = Text.lastPiece Path.slash (outputName settings n) := by
  obtain ⟨hname, rfl⟩ := outputPath_eq_ok h ho
  obtain ⟨content, mode, hf⟩ := h.file
  have g := wf.grounded
  have hd : fs.HoldsDown l dirs := wf.holdsDown hf
  obtain ⟨hn, t, ht, hdir, rfl⟩ := hk
  have hne := Path.isName_ne_nil hname
  have hlast := (Path.isName_iff.1 hname).2.2
  have hplain : ∀ m ∈ root.names ++ dirs, Path.IsPlain m := fun m hm => by
    rcases List.mem_append.1 hm with hm | hm
    · exact hl.plain m hm
    · exact isPlain_of_isEntryName (hd.2 m hm)
  rw [Replace.endsNameless, Path.stepsOf_toText hl.slashes hplain hne hlast] at hn
  obtain ⟨hsteps, hup, hpiece⟩ := stepsOf_of_named hname hn
  obtain ⟨links, hr⟩ := hl.resolve g
  rw [hr .entry dirs _ hd hne hlast, hsteps,
    followLinks_name g (hd.1 dirs List.prefix_rfl) (namesOf_outputName hname).2.2.2 hup (Or.inl rfl)] at ht
  split_ifs at ht
  cases ht
  exact ⟨Target.location_at _ _, hpiece⟩

end Generate
end Typings
