/-
Descriptors and the declarations that a run writes.

- `descriptors_kept_iff`: a run, however it ends, keeps all entries with the descriptor suffix exactly when it writes
  no declaration to a name with that suffix; with separate suffixes it always does.
- `suffixes_overlap`: suffixes that differ are accepted, but one may end with the other. Then a declaration takes the
  place of another descriptor.
-/
import Typings.Proofs.Generate.Apart

namespace Typings

namespace FileSystem

variable {fs : FileSystem}

theorem readFile_unusable {t : Text} {c : Crash} (h : unusable t = some c) : fs.readFile t = .error c := by
  simp [readFile, entryAt, locate, h, bind, Except.bind]

theorem readFile_of_resolve {t : Text} (hu : unusable t = none) {k : Location} {content : Bytes} {mode : Nat}
    (h : fs.resolve .target t = .ok (.entry k (.file content mode))) : fs.readFile t = .ok content :=
  readFile_of_entryAt (entryAt_of_resolve hu h)

/-- a file that is reached with no link followed at the end is read -/
theorem readFile_of_reached {t : Text} (hu : unusable t = none) {k : Location} {content : Bytes} {mode : Nat}
    (h : fs.resolve .entry t = .ok (.entry k (.file content mode))) : fs.readFile t = .ok content :=
  readFile_of_resolve hu ((resolve_target (by simp [h])).trans h)

end FileSystem

namespace Generate

open FileSystem Replace

variable {settings : Settings} {fs cur : FileSystem} {root : Path} {l : Location} {paths : List Path} {dryRun : Bool}

theorem hasContent_of_unusable {o : Path} {c : Crash} (h : unusable o.toText = some c) (text : Text) :
    hasContent fs o text = .error c := by
  unfold hasContent
  rw [readFile_unusable h]
  have hos := unusable_ne_os h
  cases c with
  | os e => exact absurd rfl (hos e)
  | _ => rfl

theorem unusable_of_hasContent {o : Path} {text : Text} {same : Bool} (h : hasContent fs o text = .ok same) :
    unusable o.toText = none := by
  cases hu : unusable o.toText with
  | none => rfl
  | some c => rw [hasContent_of_unusable hu] at h; cases h

/-- a file with exactly the octets of a text is seen to be there -/
theorem hasContent_of_file (g : Grounded fs) {o : Path} {text : Text} {octets : Bytes} {mode : Nat} {k : Location}
    (hu : unusable o.toText = none) (hs : fs.Starts o.toText) (hk : RenamesTo fs o k)
    (ht : Utf8.encode text = .ok octets) (hf : fs.find? k = some (.file octets mode)) :
    hasContent fs o text = .ok true := by
  obtain ⟨-, t, hr, -, rfl⟩ := hk
  have hh := resolve_holds g hs hr
  have he : t = .entry t.location (.file octets mode) := by
    cases t with
    | absent k => exact absurd (hf.symm.trans hh) (by simp)
    | entry k e =>
      have hfe : fs.find? k = some e := hh
      rw [Target.location, hfe, Option.some.injEq] at hf
      rw [hf, Target.location]
  rw [he] at hr
  simp [hasContent, readFile_of_reached hu hr, ht]

/-- whether all entries whose names end with a suffix are as before -/
def KeepsSuffix (suffix : Text) (fs fs' : FileSystem) : Prop :=
  ∀ d n, n.endsWith suffix = true → fs'.find? (d ++ [n]) = fs.find? (d ++ [n])

/-- a declaration that is written is no file that was there -/
theorem TookTurn.find?_ne (L : Layout settings fs root l paths) {fs' mid : FileSystem} {p : Path} {r : FileResult}
    {places : Set Location} (hp : p ∈ paths) (h : TookTurn settings dryRun fs fs' paths p r places cur mid)
    (hr : r.status = .written) : ∃ k, HasPlace settings fs p k ∧ fs'.find? k ≠ fs.find? k := by
  rcases L.turn_cases h.before.agree hp h.turn with ⟨-, hn⟩ | ⟨r', text, k, octets, mode, hx, -, hw, hmid⟩
  · exact absurd hr (hn r rfl)
  · refine ⟨k, hw.place, fun hsame => ?_⟩
    have hdir := hw.place.holdsDirectory L hp
    have hnew : fs'.find? k = some (.file octets mode) := by
      rw [h.stays k hw.place, hmid, find?_put_self cur (ne_nil_of_no_directory hdir)]
    have hold : cur.find? k = some (.file octets mode) := by
      rw [h.before.agree.same k (h.before.free k hw.place), ← hsame, hnew]
    obtain ⟨o, ho, hc, hk⟩ := hw.differs
    have hs : cur.Starts o.toText := by
      have hs := L.starts hp ho
      rw [Starts, h.before.agree.cwd, h.before.agree.holdsDirectory]
      exact hs
    have := hasContent_of_file (h.before.agree.grounded L.wf.grounded) (unusable_of_hasContent hc) hs hk hw.encoded hold
    rw [hc] at this
    cases this

theorem Layout.name_eq {p : Path} {dirs : List Text} {n suffix : Text} (h : Listed fs root l suffix p dirs n) :
    p.name = n := by
  rw [h.path, descend_name root (by simp)]
  simp

/-- the place of a declaration has the descriptor suffix if its name has -/
theorem Layout.endsWith_place_iff (L : Layout settings fs root l paths) {p : Path} {dirs : List Text} {n : Text}
    (h : Listed fs root l settings.descriptorSuffix p dirs n) {k : Location} (hk : HasPlace settings fs p k) :
    (placeName settings n).endsWith settings.descriptorSuffix =
      (outputName settings n).endsWith settings.descriptorSuffix := by
  obtain ⟨-, -, hpiece⟩ := L.hasPlace h hk
  have hn : settings.descriptorSuffix <:+ n := List.isSuffixOf_iff_suffix.1 h.suffixed
  have hfree : Path.slash ∉ settings.descriptorSuffix := fun hs => h.slash_not_mem L.wf (hn.subset hs)
  rw [Bool.eq_iff_iff, Text.endsWith, Text.endsWith, List.isSuffixOf_iff_suffix, List.isSuffixOf_iff_suffix, hpiece]
  exact ⟨fun hs => hs.trans (Text.lastPiece_suffix _), Text.suffix_lastPiece hfree⟩

theorem Layout.keepsSuffix_iff (L : Layout settings fs root l paths) {ps : List Path} {rs : List FileResult}
    {fs' : FileSystem} (t : Trail settings dryRun fs ps rs fs') (hps : ps <+: paths) :
    KeepsSuffix settings.descriptorSuffix fs fs' ↔ ∀ x ∈ ps.zip rs, x.2.status = .written →
      (outputName settings x.1.name).endsWith settings.descriptorSuffix = false := by
  obtain ⟨hagree, hturns⟩ := L.trail_of_prefix t hps
  constructor
  · intro hkeep x hx hr
    obtain ⟨p, r⟩ := x
    have hp : p ∈ paths := hps.subset (List.of_mem_zip hx).1
    obtain ⟨dirs, n, hn⟩ := L.listed p hp
    obtain ⟨places, cur, mid, hturn⟩ := (List.forall₂_iff_zip.1 hturns).2 hx
    obtain ⟨k, hk, hne⟩ := hturn.find?_ne L hp hr
    rw [Layout.name_eq hn]
    by_contra hends
    refine hne ?_
    rw [(L.hasPlace hn hk).1]
    exact hkeep _ _ (by rw [L.endsWith_place_iff hn hk]; simpa using hends)
  · intro hfree d n hends
    refine hagree.same _ ?_
    rintro ⟨⟨p, r⟩, hx, hr, hk⟩
    have hp : p ∈ paths := hps.subset (List.of_mem_zip hx).1
    obtain ⟨dirs, m, hm⟩ := L.listed p hp
    have hfree := hfree _ hx hr
    obtain ⟨-, hname⟩ := List.append_inj' (L.hasPlace hm hk).1 rfl
    rw [Layout.name_eq hm, ← L.endsWith_place_iff hm hk, ← List.singleton_injective hname, hends] at hfree
    cases hfree

theorem descriptorSuffix_ne_nil (h : Settings.checkSuffixes settings = .ok settings) :
    settings.descriptorSuffix ≠ [] := by
  intro he
  simp [Settings.checkSuffixes, he, Settings.failure] at h

/-- **Descriptors are kept** exactly when no declaration is written to a name with their suffix, however the run ends;
always so when the suffixes are separate. -/
theorem descriptors_kept_iff (wf : fs.WellFormed) (hs : Settings.checkSuffixes settings = .ok settings)
    (dryRun : Bool) (interrupt : Option Nat) (notices : List Notice) :
    (Separate settings →
      KeepsSuffix settings.descriptorSuffix fs ((run settings dryRun interrupt).run ⟨fs, notices⟩).2.fs) ∧
    ∃ done rs, Trail settings dryRun fs done rs ((run settings dryRun interrupt).run ⟨fs, notices⟩).2.fs ∧
      (∀ paths, fs.walkSuffix (Path.ofText settings.sourceDir) settings.descriptorSuffix = .ok paths → done <+: paths) ∧
      (KeepsSuffix settings.descriptorSuffix fs ((run settings dryRun interrupt).run ⟨fs, notices⟩).2.fs ↔
        ∀ x ∈ done.zip rs, x.2.status = .written →
          (outputName settings x.1.name).endsWith settings.descriptorSuffix = false) := by
  rcases trail_of_run wf (descriptorSuffix_ne_nil hs) dryRun interrupt notices with
    ⟨-, he⟩ | ⟨paths, root, l, done, rs, hw, L, hpre, t⟩
  · rw [he]
    exact ⟨fun _ _ _ _ => rfl, [], [], .nil fs, by simp, by simp [KeepsSuffix]⟩
  · have hkeeps := L.keepsSuffix_iff t hpre
    refine ⟨fun sep => hkeeps.2 fun x _ _ => sep.outputName _, done, rs, t, fun ps hps => ?_, hkeeps⟩
    rwa [← Except.ok.inj (hw.symm.trans hps)]

/-- a run over a descriptor that has a declaration and one that has none -/
theorem descriptors_kept_iff_two :
    let fs : FileSystem := ⟨[([("d" : Text)], .directory 0o755),
      (["d", "A.json"], .file (Utf8.encodeAll "\x7b\"name\":\"A\",\"methods\":[]\x7d") 0o644),
      (["d", "B.json"], .file (Utf8.encodeAll "\x7b\"name\":\"B\"\x7d") 0o644)], [], 0o022, [], .usual⟩
    let settings : Settings := ⟨"d", ".json", ".d.ts", false⟩
    let fs' : FileSystem := ((run settings false none).run ⟨fs, []⟩).2.fs
    fs.WellFormed ∧ Settings.checkSuffixes settings = .ok settings ∧ fs' ≠ fs ∧
      KeepsSuffix settings.descriptorSuffix fs fs' ∧
      ∃ done rs, Trail settings false fs done rs fs' ∧
        (∀ paths, fs.walkSuffix (Path.ofText settings.sourceDir) settings.descriptorSuffix = .ok paths →
          done <+: paths) ∧
        ∀ x ∈ done.zip rs, x.2.status = .written →
          (outputName settings x.1.name).endsWith settings.descriptorSuffix = false := by
  intro fs settings fs'
  have wf : fs.WellFormed := by decide +kernel
  have hnew : fs'.entries.length = 4 := by decide +kernel
  have hvalid : Settings.checkSuffixes settings = .ok settings := rfl
  obtain ⟨hsep, done, rs, htrail, hprefix, hiff⟩ := descriptors_kept_iff wf hvalid false none []
  have hkeep : KeepsSuffix settings.descriptorSuffix fs fs' := hsep (by decide)
  refine ⟨wf, hvalid, fun he => ?_, hkeep, done, rs, htrail, hprefix, hiff.1 hkeep⟩
  rw [he] at hnew
  exact absurd hnew (by decide)

/-- **Suffixes may overlap.** Where one ends with the other, the declaration of `A.json` takes the place of the
descriptor `A.out.json`. -/
theorem suffixes_overlap :
    let descriptor : Bytes := Utf8.encodeAll "\x7b\"name\":\"A\",\"methods\":[]\x7d"
    let fs : FileSystem := ⟨[([("src" : Text)], .directory 0o755), (["src", "A.json"], .file descriptor 0o644),
      (["src", "A.out.json"], .file descriptor 0o644)], [], 0o022, [], .usual⟩
    let settings : Settings := ⟨"src", ".json", ".out.json", false⟩
    fs.WellFormed ∧ Settings.checkSuffixes settings = .ok settings ∧
      fs.find? ["src", "A.out.json"] = some (.file descriptor 0o644) ∧
      ((run settings false none).run ⟨fs, []⟩).2.fs.find? ["src", "A.out.json"] =
        some (.file (Utf8.encodeAll "\nexport class A \x7b\n\x7d\n") 0o644) ∧
      ¬ KeepsSuffix settings.descriptorSuffix fs ((run settings false none).run ⟨fs, []⟩).2.fs := by
  intro descriptor fs settings
  have wf : fs.WellFormed := by decide
  have old : fs.find? ["src", "A.out.json"] = some (.file descriptor 0o644) := by decide
  have new : ((run settings false none).run ⟨fs, []⟩).2.fs.find? ["src", "A.out.json"] =
      some (.file (Utf8.encodeAll "\nexport class A \x7b\n\x7d\n") 0o644) := by decide +kernel
  refine ⟨wf, rfl, old, new, fun hkeep => ?_⟩
  have hsame := hkeep ["src"] "A.out.json" (by decide)
  rw [List.singleton_append, new, old] at hsame
  exact absurd hsame (by decide +kernel)

end Generate
end Typings
