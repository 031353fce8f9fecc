/-
The footprint of one descriptor: what processing it changes, however it ends and whatever disturbs the writing.

- `processFile_footprint`: a descriptor that ends in a failure or a crash changes nothing, and neither does one that is
  planned or unchanged. One that is written changes the entry that its declaration's path names, where other octets
  were read before, or none; this entry is now a file with the octets of the declaration. An interrupt that comes while
  the declaration is written leaves what it leaves of the replacement.
- `replaced_link_unreached`: the entry is renamed over, so a link there is replaced itself. A path that leads to its
  last name through that very link leads nowhere afterwards.
-/
import Typings.Proofs.Generate.Turns
import Typings.Proofs.Generate.WholeRun

namespace Typings.Generate

open FileSystem Replace

variable {settings : Settings} {dryRun : Bool} {fs fs' : FileSystem} {p o : Path} {text : Text}

/-! ## What is read before -/

/-- what is read under a path is not these octets: others are, or the reading is refused -/
def Differs (fs : FileSystem) (o : Path) (octets : Bytes) : Prop :=
  (∃ content, fs.readFile o.toText = .ok content ∧ content ≠ octets) ∨ ∃ e, fs.readFile o.toText = .error (.os e)

theorem hasContent_false_iff {octets : Bytes} (ht : Utf8.encode text = .ok octets) :
    hasContent fs o text = .ok false ↔ Differs fs o octets := by
  unfold hasContent Differs
  cases fs.readFile o.toText with
  | ok content => simp [ht]
  | error c => cases c <;> simp

/-! ## What is left -/

theorem afterWrite_eq_trouble {x : Except Halt Unit} {t : Trouble} (h : afterWrite o x = .error (.trouble t)) :
    ∃ c, x = .error (.crash c) := by
  rcases x with (c | _) | _
  · exact ⟨c, rfl⟩
  · cases h
  · cases h

theorem afterWrite_eq_interrupt {x : Except Halt Unit} (h : afterWrite o x = .error .interrupt) :
    x = .error .interrupt := by
  rcases x with (c | _) | _
  · cases c <;> cases h
  · rfl
  · cases h

theorem afterWrite_eq_ok {x : Except Halt Unit} (h : afterWrite o x = .ok ()) : x = .ok () := by
  rcases x with (c | _) | _
  · cases c <;> cases h
  · cases h
  · rfl

/-- a new file is read under the path, unless that led through the link that the file replaces -/
theorem readFile_of_newFile {k : Location} {octets : Bytes} {mode : Nat} (hu : unusable o.toText = none)
    (h : NewFile fs o text k octets mode fs') : fs'.readFile o.toText = .ok octets ∨
      (∃ target, fs.find? k = some (.link target)) ∧ fs'.resolve .entry o.toText = .error .notDirectory :=
  h.reached.imp_left (readFile_of_reached hu)

/-- **The footprint of a descriptor** is the entry that its declaration's path names, and that only where the
declaration is written, unless an interrupt comes while it is. -/
theorem processFile_footprint (wf : fs.WellFormed) (hp : p.IsProper) (settings : Settings) (dryRun : Bool)
    (strike : Option Strike) (notices : List Notice) :
    let after := (processFile settings dryRun strike p).run ⟨fs, notices⟩
    (∀ t, after.1 = .error (.trouble t) → after.2.fs = fs) ∧
    (after.1 = .error .interrupt → dryRun = false ∧ ∃ text o n, declarationAt fs p = .ok text ∧
      outputPath p settings = .ok o ∧ hasContent fs o text = .ok false ∧ strike = some (n, .interrupt) ∧
      n ≤ steps.length ∧ InterruptLeaves fs o text steps[n]? after.2.fs) ∧
    ∀ r, after.1 = .ok r →
      (r.status = .planned ∨ r.status = .unchanged) ∧ after.2.fs = fs ∨
        dryRun = false ∧ ∃ text o octets k mode, declarationAt fs p = .ok text ∧ outputPath p settings = .ok o ∧
          r = result p o .written ∧ Differs fs o octets ∧ NewFile fs o text k octets mode after.2.fs ∧
          (after.2.fs.readFile o.toText = .ok octets ∨
            (∃ target, fs.find? k = some (.link target)) ∧
              after.2.fs.resolve .entry o.toText = .error .notDirectory) := by
  intro after
  have hhandled : Handled settings dryRun strike fs p after.1 after.2.fs :=
    processFile_handled settings dryRun strike p ⟨fs, notices⟩
  generalize after.1 = x at hhandled
  generalize after.2.fs = fs' at hhandled
  cases hhandled with
  | undeclared | unnamed | unread =>
    refine ⟨fun _ _ => rfl, ?_, ?_⟩
    · intro hi
      cases hi
    · intro r hr
      cases hr
  | planned =>
    refine ⟨fun _ _ => rfl, ?_, ?_⟩
    · intro hi
      cases hi
    · intro r hr
      cases hr
      exact Or.inl ⟨Or.inl rfl, rfl⟩
  | unchanged =>
    refine ⟨fun _ _ => rfl, ?_, ?_⟩
    · intro hi
      cases hi
    · intro r hr
      cases hr
      exact Or.inl ⟨Or.inr rfl, rfl⟩
  | @replacing text o h ho hd hc =>
    obtain ⟨hreplaced, hcrashed, hinterrupted⟩ := run_all_or_nothing wf (outputPath_proper hp ho) text strike
    cases hw : afterWrite o (Replace.run fs o text strike).result with
    | error e =>
      refine ⟨?_, ?_, ?_⟩
      · rintro t ht
        cases ht
        obtain ⟨c, hc⟩ := afterWrite_eq_trouble hw
        exact hcrashed c hc
      · intro hi
        cases hi
        obtain ⟨n, hstrike, hn, hleaves⟩ := hinterrupted (afterWrite_eq_interrupt hw)
        exact ⟨hd, text, o, n, h, ho, hc, hstrike, hn, hleaves⟩
      · intro r hr
        cases hr
    | ok =>
      refine ⟨?_, ?_, ?_⟩
      · intro t ht
        cases ht
      · intro hi
        cases hi
      · intro r hr
        cases hr
        obtain ⟨k, octets, mode, hnew⟩ := (hreplaced (afterWrite_eq_ok hw)).1
        exact Or.inr ⟨hd, text, o, octets, k, mode, h, ho, rfl, (hasContent_false_iff hnew.content).1 hc, hnew,
          readFile_of_newFile (unusable_of_hasContent hc) hnew⟩

/-- a declaration that takes the place of a link to a directory, one whose permissions are refused, one whose writing is
interrupted after the rename, and one that a directory is in the way of -/
theorem processFile_footprint_two :
    let fs : FileSystem := ⟨[([("d" : Text)], .directory 0o755), (["d", "A.d.ts"], .link "B.d.ts"),
      (["d", "A.json"], .file (Utf8.encodeAll "\x7b\"name\":\"A\",\"methods\":[]\x7d") 0o644),
      (["d", "B.d.ts"], .directory 0o755),
      (["d", "B.json"], .file (Utf8.encodeAll "\x7b\"name\":\"B\",\"methods\":[]\x7d") 0o644)], [], 0o022, [], .usual⟩
    let settings : Settings := ⟨"d", ".json", ".d.ts", false⟩
    let after (strike : Option Strike) (t : Text) := (processFile settings false strike (Path.ofText t)).run ⟨fs, []⟩
    let refusal : Strike := (9, .refusal ⟨.permission, none, none⟩)
    fs.WellFormed ∧
      (∃ octets mode, Differs fs ⟨"/", ["d", "A.d.ts"]⟩ octets ∧
        NewFile fs ⟨"/", ["d", "A.d.ts"]⟩ "\nexport class A \x7b\n\x7d\n" ["d", "A.d.ts"] octets mode
          (after none "/d/A.json").2.fs) ∧
      (after (some refusal) "/d/A.json").2.fs = fs ∧
      InterruptLeaves fs ⟨"/", ["d", "A.d.ts"]⟩ "\nexport class A \x7b\n\x7d\n" none
        (after (some (11, .interrupt)) "/d/A.json").2.fs ∧
      (∃ ending, (after none "/d/B.json").1 = .error ending) ∧ (after none "/d/B.json").2.fs = fs := by
  intro fs settings after refusal
  have wf : fs.WellFormed := by decide +kernel
  have hfootprint (strike : Option Strike) (t : Text) :=
    processFile_footprint wf (Path.ofText_isProper t) settings false strike []
  have houtput : outputPath (Path.ofText "/d/A.json") settings = .ok ⟨"/", ["d", "A.d.ts"]⟩ := by decide +kernel
  have htext : declarationAt fs (Path.ofText "/d/A.json") = .ok "\nexport class A \x7b\n\x7d\n" := by decide +kernel
  have troubled (strike : Option Strike) (t : Text)
      (h : ∃ trouble, (after strike t).1 = .error (.trouble trouble)) : (after strike t).2.fs = fs := by
    obtain ⟨trouble, htrouble⟩ := h
    exact (hfootprint strike t).1 trouble htrouble
  refine ⟨wf, ?_, ?_, ?_, ?_⟩
  · have hr : (after none "/d/A.json").1 = .ok (result ⟨"/", ["d", "A.json"]⟩ ⟨"/", ["d", "A.d.ts"]⟩ .written) := by
      decide +kernel
    rcases (hfootprint none "/d/A.json").2.2 _ hr with
      ⟨h, -⟩ | ⟨-, text, o, octets, k, mode, hdecl, ho, -, hdiff, hnew, -⟩
    · exact absurd h (by decide)
    · have hplace : fs.placeOf (⟨"/", ["d", "A.d.ts"]⟩ : Path).toText = some [("d" : Text), "A.d.ts"] := by
        decide +kernel
      cases houtput.symm.trans ho
      cases htext.symm.trans hdecl
      cases hplace.symm.trans hnew.place
      exact ⟨octets, mode, hdiff, hnew⟩
  · exact troubled _ _ ⟨.failure (writeFailure ⟨"/", ["d", "A.d.ts"]⟩ ⟨.permission, none, none⟩), by decide +kernel⟩
  · obtain ⟨-, text, o, n, hdecl, ho, -, hstrike, -, hleaves⟩ :=
      (hfootprint (some (11, .interrupt)) "/d/A.json").2.1 (by decide +kernel)
    cases houtput.symm.trans ho
    cases htext.symm.trans hdecl
    cases hstrike
    exact hleaves
  · have hfails : (after none "/d/B.json").1 = .error (.trouble (.failure (writeFailure ⟨"/", ["d", "B.d.ts"]⟩
        ⟨.isDirectory, some "/d/.B.d.ts.00000000.tmp", some "/d/B.d.ts"⟩))) := by decide +kernel
    exact ⟨⟨_, hfails⟩, troubled _ _ ⟨_, hfails⟩⟩

/-- **A link that is replaced is not followed any more.** The descriptor and its declaration are reached through
`A.d.ts`, a link to a directory; the declaration takes the place of the link. -/
theorem replaced_link_unreached :
    let fs : FileSystem := ⟨[([("a" : Text)], .directory 0o755), (["a", "A.d.ts"], .link "y"),
      (["a", "A.json"], .file (Utf8.encodeAll "\x7b\"name\":\"A\",\"methods\":[]\x7d") 0o644),
      (["a", "y"], .directory 0o755)], [], 0o022, [], .usual⟩
    let settings : Settings := ⟨"a", ".json", ".d.ts", false⟩
    let after := (processFile settings false none (Path.ofText "/a/A.d.ts/../A.json")).run ⟨fs, []⟩
    fs.WellFormed ∧
      after.1 = .ok ⟨"/a/A.d.ts/../A.json", some "/a/A.d.ts/../A.d.ts", .written, none, none⟩ ∧
      ¬ ∃ k content mode, after.2.fs.entryAt "/a/A.d.ts/../A.d.ts" = .ok (k, .file content mode) := by
  intro fs settings after
  have hentry : after.2.fs.entryAt "/a/A.d.ts/../A.d.ts" =
      .error (.os (OsCause.notDirectory.on "/a/A.d.ts/../A.d.ts")) := by decide +kernel
  refine ⟨by decide +kernel, by decide +kernel, ?_⟩
  rintro ⟨k, content, mode, h⟩
  cases hentry.symm.trans h

end Typings.Generate
