/-
Showing a declaration and writing it.

Both commands make the same text of a descriptor. What the second one writes is then shown by the first one, if the new
file does not take away what the descriptor is read through.
- `output_reached`: where it does not, the path of the declaration leads to the new file.
- `declarationAt_processed`: the descriptor has the same declaration afterwards.
- `render_agrees`: what is written is shown, and what cannot be loaded or rendered fails in the same way.
- `render_disagrees`: the price. A declaration that replaces a link, or takes the place of its own descriptor under
  another spelling of its path, cannot be shown.
-/
import Typings.Proofs.FileSystem.Without
import Typings.Proofs.Generate.WholeRun
import Typings.Proofs.Program.Endings

namespace Typings

namespace Generate

open FileSystem Replace

variable {settings : Settings} {fs fs' : FileSystem} {t text : Text} {o : Path} {k j : Location} {e : Entry}

/-! ## The place of a declaration -/

/-- the declaration of a descriptor stands beside it as it is written, under a name that is followed in one step -/
theorem stepsOf_output (ho : outputPath (Path.ofText t) settings = .ok o) (hn : endsNameless o.toText = false) :
    ∃ n, Path.IsPlain n ∧ n ≠ (".." : Text) ∧ o.root = (Path.ofText t).root ∧ o.names ≠ [] ∧
      stepsOf o.toText = (Path.ofText t).names.dropLast ++ [n] := by
  set p := Path.ofText t
  obtain ⟨-, hname, rfl⟩ := Path.withName_eq_ok ho
  have hplain : ∀ n ∈ p.names.dropLast, Path.IsPlain n :=
    fun n hn => Path.plain_of_mem_namesOf (List.mem_of_mem_dropLast hn)
  have hroot : ∀ c ∈ p.root, c = Path.slash := Path.rootOf_slashes t
  have hne := Path.isName_ne_nil hname
  have hlast := (Path.isName_iff.1 hname).2.2
  have hsteps : stepsOf (p.parent.child (outputName settings p.name)).toText =
      p.names.dropLast ++ stepsOf (outputName settings p.name) := Path.stepsOf_toText hroot hplain hne hlast
  have hends : endsNameless (p.parent.child (outputName settings p.name)).toText = false := hn
  rw [endsNameless, hsteps] at hends
  obtain ⟨hone, hup, -⟩ := stepsOf_of_named hname hends
  refine ⟨_, (namesOf_outputName hname).2, hup, rfl, ?_, ?_⟩
  · exact List.append_ne_nil_of_right_ne_nil _ (by simp)
  · rw [← hone]
    exact hsteps

/-- **A declaration is reached under its path** if its descriptor can be reached without what it replaces. -/
theorem output_reached (g : Grounded fs) (ha : (Path.ofText t).root ≠ [])
    (ho : outputPath (Path.ofText t) settings = .ok o) (hk : RenamesTo fs o k)
    (hkept : (fs.erase k).resolve .target (Path.ofText t).toText = .ok (.entry j e)) {octets : Bytes} {mode : Nat}
    (hnew : NewFile fs o text k octets mode fs') :
    fs'.resolve .entry o.toText = .ok (.entry k (.file octets mode)) := by
  have hslashes : ∀ c ∈ (Path.ofText t).root, c = Path.slash := Path.rootOf_slashes t
  have hproper := outputPath_proper (Path.ofText_isProper t) ho
  obtain ⟨n, hplain, hup, hroot, hnames, hsteps⟩ := stepsOf_output ho hk.1
  have ha' : o.root ≠ [] := by rwa [hroot]
  have hd := hk.holdsDirectory g (starts_absolute hproper.1 ha')
  rcases hnew.reached with h | ⟨-, h⟩
  · exact h
  · exfalso
    have herase := agreeOff_erase hd
    have gE := herase.grounded g
    -- the directory of both is reached without what is replaced
    have hpnames : (Path.ofText t).names ≠ [] := (Path.withName_eq_ok ho).1
    have hpsteps : stepsOf (Path.ofText t).toText = (Path.ofText t).names.dropLast ++ [(Path.ofText t).name] := by
      rw [Path.stepsOf_toText_plain ha hslashes fun n hn => Path.plain_of_mem_namesOf hn]
      exact congrArg Path.names (Path.eq_append_name hpnames)
    unfold resolve at hkept h
    rw [hpsteps, startOf_absolute hslashes ha] at hkept
    split_ifs at hkept
    obtain ⟨d, m, hdir⟩ := followLinks_before gE (holdsDirectory_root _) (by simp) hkept false
    -- and so it is afterwards, where the last name leads to an entry or is too long
    have hsame := followLinks_put_of_erase g hd octets mode (holdsDirectory_root _) hdir
    rw [← hnew.changed] at hsame
    have gF : Grounded fs' := by
      rw [hnew.changed]
      exact (agreeOff_put hd rfl (by simp)).grounded g
    have hholds : fs'.holdsDirectory d = true :=
      holdsDirectory_iff.2 ⟨m, followLinks_holds gF (holdsDirectory_root _) hsame⟩
    obtain ⟨left, hleft⟩ := followLinks_append rfl hsame
    rw [hsteps, startOf_absolute hproper.1 ha', Path.endsOpen_toText hproper hnames, hleft _ _ _ (by simp),
      followLinks_name gF hholds hplain.2.2 hup (Or.inl rfl)] at h
    split_ifs at h <;> cases h

/-! ## The declaration of a descriptor that has been processed -/

/-- a path leads to a file, and does so without the entry that its declaration would replace -/
def LeadsApart (settings : Settings) (fs : FileSystem) (p : Path) : Prop :=
  ∃ j content mode, fs.entryAt p.toText = .ok (j, .file content mode) ∧
    ∀ o k, outputPath p settings = .ok o → RenamesTo fs o k →
      (fs.erase k).entryAt p.toText = .ok (j, .file content mode)

theorem declarationAt_congr {p : Path} (h : fs'.readFile p.toText = fs.readFile p.toText) :
    declarationAt fs' p = declarationAt fs p := by
  simp only [declarationAt, Descriptor.load, h]

theorem Processed.status {p : Path} {r : FileResult} (h : Processed settings false fs p (.ok r) fs') :
    r.status = .written ∨ r.status = .unchanged := by
  cases h with
  | planned _ _ hd => cases hd
  | unchanged => exact Or.inr rfl
  | written => exact Or.inl rfl

/-- **A descriptor that has been processed** has the declaration whose octets are in the file beside it. -/
theorem declarationAt_processed (g : Grounded fs) (ha : (Path.ofText t).root ≠ []) {r : FileResult}
    (h : Processed settings false fs (Path.ofText t) (.ok r) fs')
    (hapart : r.status = .written → LeadsApart settings fs (Path.ofText t)) :
    ∃ o text octets, outputPath (Path.ofText t) settings = .ok o ∧ Utf8.encode text = .ok octets ∧
      fs'.readFile o.toText = .ok octets ∧ declarationAt fs' (Path.ofText t) = .ok text := by
  cases h with
  | planned _ _ hd => cases hd
  | @unchanged text o h ho _ hc =>
    obtain ⟨octets, ht, hread⟩ := hasContent_true_iff.1 hc
    exact ⟨o, text, octets, ho, ht, hread, h⟩
  | @written text o h ho _ hc hw =>
    obtain ⟨j, content, mode, hentry, hwithout⟩ := hapart rfl
    have hproper := outputPath_proper (Path.ofText_isProper t) ho
    obtain ⟨k, octets, mode', hk, hdir, hnew⟩ := replaced_renamesTo g hproper hw
    have hkept := (entryAt_eq_ok (hwithout o k ho hk)).2
    -- the descriptor is read as before
    have hsame : (fs.replace o text).1.readFile (Path.ofText t).toText = fs.readFile (Path.ofText t).toText := by
      have hresolve := resolve_put_of_erase g hdir octets mode'
        (starts_absolute (Path.rootOf_slashes t) ha) hkept
      rw [← hnew.changed] at hresolve
      rw [readFile_of_resolve (entryAt_eq_ok hentry).1 hresolve, readFile_of_entryAt hentry]
    refine ⟨o, text, octets, ho, hnew.content, ?_, by rw [declarationAt_congr hsame, h]⟩
    exact readFile_of_reached (unusable_of_hasContent hc) (output_reached g ha ho hk hkept hnew)

end Generate

namespace Program

open CommandLine FileSystem Generate

variable {s : Surroundings} {c : Console}

/-! ## Showing -/

/-- **What is written is shown.** After a descriptor has been processed, the command that shows its declaration writes
exactly the text whose octets the file beside it holds, and changes nothing; where that file is new, the descriptor must
not be read through what it has replaced. A descriptor that cannot be loaded or rendered fails in the same way in both,
and shows nothing. -/
theorem render_agrees {fs : FileSystem} (wf : fs.WellFormed) (settings : Settings) {t : Text}
    (ha : (Path.ofText t).isAbsolute = true) (notices : List Notice) {words : List Text} {options : Console.Options}
    (hwords : Request.ofWords words = .ok (.render options t))
    (hconsole : Console.of s.env s.watched options = .ok c) (interrupt : Option Nat) :
    let processed := (processFile settings false none (Path.ofText t)).run ⟨fs, notices⟩
    let shown := run { s with fs := processed.2.fs } interrupt words
    (∀ r, processed.1 = .ok r → (r.status = .written → LeadsApart settings fs (Path.ofText t)) →
      (r.status = .written ∨ r.status = .unchanged) ∧
      ∃ o text octets, outputPath (Path.ofText t) settings = .ok o ∧ Utf8.encode text = .ok octets ∧
        processed.2.fs.readFile o.toText = .ok octets ∧
        shown.exit = .ok 0 ∧ shown.out = text ∧ shown.fs = processed.2.fs) ∧
    ∀ f, declarationAt fs (Path.ofText t) = .error (.failure f) →
      processed.1 = .error (.trouble (.failure f)) ∧ processed.2.fs = fs ∧
        shown.exit = .ok f.exitCode ∧ shown.out = [] ∧ shown.fs = fs := by
  intro processed shown
  have hroot : (Path.ofText t).root ≠ [] := by simpa [Path.isAbsolute] using ha
  have hrun : shown = conclude { s with fs := processed.2.fs } c (render t) :=
    run_of_asked (s := { s with fs := processed.2.fs }) (.render hwords) hconsole
  obtain ⟨x, hx, hprocessed⟩ := processFile_processed settings false (Path.ofText t) ⟨fs, notices⟩
  constructor
  · intro r hr hapart
    have hok : x = .ok r := mapError_trouble_injective (hx.symm.trans hr)
    subst hok
    refine ⟨hprocessed.status, ?_⟩
    obtain ⟨o, text, octets, ho, ht, hread, hdecl⟩ := declarationAt_processed wf.grounded hroot hprocessed hapart
    rcases render_cases t ⟨processed.2.fs, []⟩ with ⟨e, he, -⟩ | ⟨text', htext, hrender⟩
    · cases hdecl.symm.trans he
    · obtain rfl : text = text' := Except.ok.inj (hdecl.symm.trans htext)
      have hdata : Console.data text = .ok text := by simp only [Console.data, ht]
      rw [hdata] at hrender
      have hshown := hrun.trans (conclude_ok (s := { s with fs := processed.2.fs }) hrender)
      exact ⟨o, text, octets, ho, ht, hread, by rw [hshown]; rfl, by rw [hshown], by rw [hshown]⟩
  · intro f hf
    have hundeclared : Processed settings false fs (Path.ofText t) (.error (.failure f)) fs := .undeclared hf
    obtain ⟨hfails, hsame⟩ := hundeclared.run (s := ⟨fs, notices⟩)
    have hfs : processed.2.fs = fs := hsame
    have hdecl : declarationAt processed.2.fs (Path.ofText t) = .error (.failure f) := by rw [hfs, hf]
    rcases render_cases t ⟨processed.2.fs, []⟩ with ⟨e, he, hrender⟩ | ⟨text, htext, -⟩
    · obtain rfl : .failure f = e := Except.error.inj (hdecl.symm.trans he)
      have hshown := hrun.trans (conclude_failure (s := { s with fs := processed.2.fs }) hrender)
      exact ⟨hfails, hfs, by rw [hshown], by rw [hshown], by rw [hshown]; exact hfs⟩
    · cases hdecl.symm.trans htext

/-- a descriptor with a declaration and one without -/
theorem render_agrees_two :
    let fs : FileSystem := ⟨[([("d" : Text)], .directory 0o755),
      (["d", "A.json"], .file (Utf8.encodeAll "\x7b\"name\":\"A\",\"methods\":[]\x7d") 0o644),
      (["d", "B.json"], .file (Utf8.encodeAll "\x7b\"name\":\"B\"\x7d") 0o644)], [], 0o022, [], .usual⟩
    let settings : Settings := ⟨"d", ".json", ".d.ts", false⟩
    let s : Surroundings := ⟨fs, [], "Linux", false, "20240101_000000"⟩
    let processed (t : Text) := (processFile settings false none (Path.ofText t)).run ⟨fs, []⟩
    let shown (t : Text) := run { s with fs := (processed t).2.fs } none ["render", t]
    LeadsApart settings fs (Path.ofText "/d/A.json") ∧
      (∃ r o text octets, (processed "/d/A.json").1 = .ok r ∧ r.status = .written ∧
        outputPath (Path.ofText "/d/A.json") settings = .ok o ∧ Utf8.encode text = .ok octets ∧
        (processed "/d/A.json").2.fs.readFile o.toText = .ok octets ∧
        (shown "/d/A.json").exit = .ok 0 ∧ (shown "/d/A.json").out = text) ∧
      ∃ f, declarationAt fs (Path.ofText "/d/B.json") = .error (.failure f) ∧ f.exitCode = 4 ∧
        (processed "/d/B.json").1 = .error (.trouble (.failure f)) ∧
        (shown "/d/B.json").exit = .ok f.exitCode ∧ (shown "/d/B.json").out = [] := by
  intro fs settings s processed shown
  have wf : fs.WellFormed := by decide
  have hapart : LeadsApart settings fs (Path.ofText "/d/A.json") := by
    refine ⟨["d", "A.json"], Utf8.encodeAll "\x7b\"name\":\"A\",\"methods\":[]\x7d", 0o644, by decide +kernel, ?_⟩
    rintro o k ho ⟨-, target, htarget, -, rfl⟩
    have houtput : outputPath (Path.ofText "/d/A.json") settings = .ok ⟨"/", ["d", "A.d.ts"]⟩ := by decide +kernel
    have hplace : fs.resolve .entry (⟨"/", ["d", "A.d.ts"]⟩ : Path).toText = .ok (.absent ["d", "A.d.ts"]) := by
      decide +kernel
    cases houtput.symm.trans ho
    cases hplace.symm.trans htarget
    decide +kernel
  have hagrees (t : Text) (ha : (Path.ofText t).isAbsolute = true)
      (hwords : Request.ofWords ["render", t] = .ok (.render ⟨none, false, false, false⟩ t)) :=
    render_agrees (s := s) wf settings ha [] hwords rfl none
  refine ⟨hapart, ?_, ?_⟩
  · have hstatus : (processed "/d/A.json").1.toOption.map FileResult.status = some .written := by decide +kernel
    cases hr : (processed "/d/A.json").1 with
    | error e =>
      rw [hr] at hstatus
      cases hstatus
    | ok r =>
      rw [hr] at hstatus
      obtain ⟨-, o, text, octets, ho, ht, hread, hexit, hout, -⟩ := (hagrees "/d/A.json" rfl rfl).1 r hr fun _ => hapart
      exact ⟨r, o, text, octets, rfl, Option.some.inj hstatus, ho, ht, hread, hexit, hout⟩
  · have hcode : codeOf (((declarationAt fs (Path.ofText "/d/B.json")).map (·, success)).mapError .trouble) = 4 := by
      decide +kernel
    cases hf : declarationAt fs (Path.ofText "/d/B.json") with
    | ok text =>
      rw [hf] at hcode
      exact absurd hcode (by decide : success ≠ 4)
    | error e =>
      rw [hf] at hcode
      cases e with
      | crash c => exact absurd hcode (by decide : crashed ≠ 4)
      | failure f =>
        obtain ⟨hfails, -, hexit, hout, -⟩ := (hagrees "/d/B.json" rfl rfl).2 f hf
        exact ⟨f, rfl, hcode, hfails, hexit, hout⟩

/-- **What is written is not always shown.** The declaration replaces a link through which its descriptor was read; or
it takes the place of the descriptor itself, under a path that is spelled in another way; or no console can be made. -/
theorem render_disagrees :
    let descriptor : Entry := .file (Utf8.encodeAll "\x7b\"name\":\"A\",\"methods\":[]\x7d") 0o644
    let linked : FileSystem := ⟨[([("a" : Text)], .directory 0o755), (["a", "A.d.ts"], .link "y"),
      (["a", "A.json"], descriptor), (["a", "y"], .directory 0o755)], [], 0o022, [], .usual⟩
    let plain : FileSystem := ⟨[([("d" : Text)], .directory 0o755), (["d", ".json"], descriptor)], [], 0o022, [],
      .usual⟩
    let usual : Settings := ⟨"d", ".json", ".d.ts", false⟩
    let dotted : Settings := ⟨"d", "json", "/.json", false⟩
    let processed (fs : FileSystem) (settings : Settings) (t : Text) :=
      (processFile settings false none (Path.ofText t)).run ⟨fs, []⟩
    let shown (fs : FileSystem) (settings : Settings) (env : Environment) (t : Text) :=
      run ⟨(processed fs settings t).2.fs, env, "Linux", false, "20240101_000000"⟩ none ["render", t]
    linked.WellFormed ∧ plain.WellFormed ∧
      (outputPath (Path.ofText "/a/A.d.ts/../A.json") usual = .ok ⟨"/", ["a", "A.d.ts", "..", "A.d.ts"]⟩ ∧
        (processed linked usual "/a/A.d.ts/../A.json").1 = .ok ⟨"/a/A.d.ts/../A.json", some "/a/A.d.ts/../A.d.ts",
          .written, none, none⟩ ∧ (shown linked usual [] "/a/A.d.ts/../A.json").exit = .ok 5) ∧
      (outputPath (Path.ofText "/d/.json") dotted = .ok ⟨"/", ["d", "./.json"]⟩ ∧
        (processed plain dotted "/d/.json").1 = .ok ⟨"/d/.json", some "/d/./.json", .written, none, none⟩ ∧
        (shown plain dotted [] "/d/.json").exit = .ok 4) ∧
      (processed plain usual "/d/.json").1 = .ok ⟨"/d/.json", some "/d/.d.ts", .written, none, none⟩ ∧
      (shown plain usual [("HOME", "/home"), ("COLUMNS", "²")] "/d/.json").exit =
        .error (.value "invalid literal for int() with base 10: '²'") := by
  intro descriptor linked plain usual dotted processed shown
  refine ⟨by decide, by decide, ⟨?_, ?_, ?_⟩, ⟨?_, ?_, ?_⟩, ?_, ?_⟩ <;> decide +kernel

end Program
end Typings
