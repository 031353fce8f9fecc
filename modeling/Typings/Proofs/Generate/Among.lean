/-
Turns among others: what the turn of a descriptor does is what it would have done alone.

Over a tidy tree a turn comes out the same in the first file system and in one where other descriptors have had their
turns: the same result, and the same file at the same place.
- `Amid`: a file system in which some descriptors have had their turns. `Amid.turn`, `Amid.trail`: one turn more, and
  any number of them.
- `Amid.echo`: the turn of a descriptor whose declaration is not yet written echoes its turn in the first one.
There is one difference. The path of a temporary file has no double dots: they are taken away as if no name were a
link. So it may lead through a link to the place of another declaration. It is refused in any case, but for another
cause once that declaration is there.
-/
import Typings.Proofs.FileSystem.Answer
import Typings.Proofs.FileSystem.Order
import Typings.Proofs.Generate.Steady

namespace Typings

namespace FileSystem

variable {fs : FileSystem}

/-- a double dot leads to a directory -/
theorem followLinks_up (purpose : Purpose) (links : Nat) (start : Location) :
    fs.followLinks purpose links false start [(".." : Text)] =
      .ok (.entry start.dropLast ((fs.find? start.dropLast).getD (.directory usualMode))) := by
  cases links <;> rfl

end FileSystem

namespace Generate

open FileSystem Replace

variable {settings : Settings} {fs cur mid fs' : FileSystem} {root : Path} {l : Location} {paths : List Path}
  {p q o : Path} {places : Set Location} {text : Text} {dryRun : Bool} {x : Except Ending FileResult}

/-! ## Paths of declarations -/

/-- the suffixes make all names end in a lone dot, or none -/
theorem finalDot_outputName {m n : Text} (hn : Path.slash ∉ n)
    (hmo : Path.isName (outputName settings m) = true) (hno : Path.isName (outputName settings n) = true)
    (h : Path.finalDot (outputName settings m) = []) : Path.finalDot (outputName settings n) = [] := by
  have piece : ∀ k : Text, Path.isName (outputName settings k) = true →
      Text.lastPiece Path.slash (outputName settings k) ≠ [] := fun k hk =>
    Path.lastPiece_ne_nil (Path.isName_ne_nil hk) (Path.isName_iff.1 hk).2.2
  rw [Path.finalDot_eq (piece m hmo)] at h
  rw [Path.finalDot_eq (piece n hno)]
  rw [if_neg]
  rcases Text.lastPiece_cases Path.slash settings.declarationSuffix with ⟨hfree, -⟩ | ⟨a, ha⟩
  · -- no slash in the suffix: the name is one piece, and a lone dot is no name
    rw [Text.lastPiece_of_not_mem (slash_not_mem_outputName hn hfree)]
    intro hdot
    rw [hdot] at hno
    exact absurd hno (by decide)
  · -- a slash in the suffix: the last piece is the suffix's own
    have hlast : ∀ k : Text, Text.lastPiece Path.slash (outputName settings k) =
        Text.lastPiece Path.slash settings.declarationSuffix := fun k => by
      conv_lhs => rw [outputName, ha, ← List.append_assoc]
      exact Text.lastPiece_of_append (Text.not_mem_lastPiece _) _
    rw [hlast n, ← hlast m]
    intro hdot
    simp [hdot] at h

/-- where a declaration has a place, all declarations have direct paths -/
theorem Layout.direct (L : Layout settings fs root l paths) (tidy : Tidy settings fs paths) (hp : p ∈ paths)
    (ho : outputPath p settings = .ok o) (hq : q ∈ paths) {k : Location} (hk : HasPlace settings fs q k) :
    Direct fs o := by
  refine ⟨tidy.ne_link hp ho, fun cause hc => ?_⟩
  obtain ⟨dirs, n, hn⟩ := L.listed p hp
  obtain ⟨dirs', m, hm⟩ := L.listed q hq
  obtain ⟨hno, rfl⟩ := outputPath_eq_ok hn ho
  obtain ⟨-, hmo, hpiece⟩ := L.hasPlace hm hk
  have hdot : Path.finalDot (outputName settings m) = [] := by
    rw [Path.finalDot_eq (Path.lastPiece_ne_nil (Path.isName_ne_nil hmo) (Path.isName_iff.1 hmo).2.2), ← hpiece,
      if_neg (namesOf_outputName hmo).2.2.2]
  have hsteps : stepsOf (outputName settings n) = [placeName settings n] := by
    rw [stepsOf_outputName hno, finalDot_outputName (hn.slash_not_mem L.wf) hmo hno hdot]
  obtain ⟨content, mode, hf⟩ := hn.file
  have hd : fs.HoldsDown l dirs := L.wf.holdsDown hf
  obtain ⟨links, hr⟩ := L.leads.resolve L.wf.grounded
  rw [hr .entry dirs _ hd (Path.isName_ne_nil hno) (Path.isName_iff.1 hno).2.2, hsteps] at hc
  split_ifs at hc
  · cases hc; rfl
  · by_cases hup : placeName settings n = (".." : Text)
    · rw [hup, followLinks_up] at hc
      cases hc
    · rw [followLinks_name L.wf.grounded (hd.1 dirs List.prefix_rfl) (namesOf_outputName hno).2.2.2 hup
        (Or.inl rfl)] at hc
      split_ifs at hc
      cases hc
      rfl

theorem Layout.names_ne_nil (L : Layout settings fs root l paths) (hp : p ∈ paths)
    (ho : outputPath p settings = .ok o) : o.names ≠ [] := by
  obtain ⟨dirs, n, hn⟩ := L.listed p hp
  obtain ⟨-, rfl⟩ := outputPath_eq_ok hn ho
  simp

/-- the place of a declaration is a name in a directory -/
theorem HasPlace.fits (L : Layout settings fs root l paths) (hp : p ∈ paths) {k : Location}
    (hk : HasPlace settings fs p k) : fs.Fits k := by
  obtain ⟨dirs, n, hn⟩ := L.listed p hp
  obtain ⟨rfl, hno, -⟩ := L.hasPlace hn hk
  obtain ⟨content, mode, hf⟩ := hn.file
  have hd : fs.HoldsDown l dirs := L.wf.holdsDown hf
  obtain ⟨o, ho, hnamed, t, ht, -, hloc⟩ := hk
  obtain ⟨-, rfl⟩ := outputPath_eq_ok hn ho
  have hne := Path.isName_ne_nil hno
  have hlast := (Path.isName_iff.1 hno).2.2
  have hplain : ∀ m ∈ root.names ++ dirs, Path.IsPlain m := fun m hm => by
    rcases List.mem_append.1 hm with hm | hm
    · exact L.leads.plain m hm
    · exact isPlain_of_isEntryName (hd.2 m hm)
  rw [endsNameless, Path.stepsOf_toText L.leads.slashes hplain hne hlast] at hnamed
  obtain ⟨hsteps, hup, -⟩ := stepsOf_of_named hno hnamed
  obtain ⟨hplace0, hplace1, hplace2⟩ := (namesOf_outputName hno).2
  refine L.wf.fits_child (hd.1 dirs List.prefix_rfl) (isEntryName_iff.2 ⟨hplace0, hplace1, hplace2, hup, ?_⟩)
  obtain ⟨links, hr⟩ := L.leads.resolve L.wf.grounded
  rw [hr .entry dirs _ hd hne hlast, hsteps,
    followLinks_name L.wf.grounded (hd.1 dirs List.prefix_rfl) hplace2 hup (Or.inl rfl)] at ht
  split_ifs at ht with h1 h2
  exact Nat.not_lt.1 h2

/-- a descriptor is processed without a change, or its declaration is put at its place -/
theorem Layout.processed_cases (L : Layout settings fs root l paths) (h : AgreeOff places fs cur) (hp : p ∈ paths)
    {y : Except Trouble FileResult} (hy : Processed settings dryRun cur p y mid) :
    mid = cur ∨ ∃ r k octets mode, y = .ok r ∧ r.status = .written ∧ HasPlace settings fs p k ∧
      mid = cur.put k (.file octets mode) := by
  have cases {x : Except Ending FileResult} (ht : Turn settings dryRun cur p x mid) :
      mid = cur ∨ ∃ r k octets mode, x = .ok r ∧ r.status = .written ∧ HasPlace settings fs p k ∧
        mid = cur.put k (.file octets mode) := by
    rcases L.turn_cases h hp ht with ⟨hsame, -⟩ | ⟨r, _, k, octets, mode, hx, hr, hw, hmid⟩
    · exact Or.inl hsame
    · exact Or.inr ⟨r, k, octets, mode, hx, hr, hw.place, hmid⟩
  cases y with
  | ok r =>
    rcases cases (.done hy) with hsame | ⟨r', k, octets, mode, hx, hrest⟩
    · exact Or.inl hsame
    · cases hx
      exact Or.inr ⟨r, k, octets, mode, rfl, hrest⟩
  | error e =>
    have kept : ∀ x : Ending, Turn settings dryRun cur p (.error x) mid → mid = cur := by
      intro x ht
      rcases cases ht with hsame | ⟨_, _, _, _, hx, -⟩
      · exact hsame
      · cases hx
    cases e with
    | crash c => exact Or.inl (kept _ (.crashed hy))
    | failure f =>
      cases hf : settings.failFast with
      | true => exact Or.inl (kept _ (.stopped hf hy))
      | false =>
        rcases cases (.skipped hf hy) with hsame | ⟨r, _, _, _, hx, hr, -⟩
        · exact Or.inl hsame
        · cases hx
          cases hr

/-! ## File systems amid turns -/

/-- a file system in which some descriptors have had their turns: it differs from the first one at places of
declarations only, and something stands there -/
structure Amid (settings : Settings) (fs : FileSystem) (paths : List Path) (places : Set Location)
    (cur : FileSystem) : Prop where
  wf : cur.WellFormed
  agree : AgreeOff places fs cur
  known : ∀ k ∈ places, ∃ q ∈ paths, HasPlace settings fs q k
  stand : ∀ k ∈ places, cur.find? k ≠ none
  umask : cur.umask = fs.umask
  denied : cur.denied = fs.denied

theorem Amid.first (wf : fs.WellFormed) : Amid settings fs paths ∅ fs :=
  ⟨wf, AgreeOff.refl fs, by simp, by simp, rfl, rfl⟩

theorem Amid.before (A : Amid settings fs paths places cur) (free : ∀ k, HasPlace settings fs p k → k ∉ places) :
    Before settings fs paths p places cur :=
  ⟨A.agree, A.known, A.stand, free⟩

/-- a file system where no declaration is written is the first one -/
theorem Amid.eq_first (L : Layout settings fs root l paths) (A : Amid settings fs paths ∅ cur) : cur = fs :=
  L.wf.ext A.wf (fun k => A.agree.same k (Set.notMem_empty k)) A.agree.cwd A.umask A.denied A.agree.choices

/-- one declaration more -/
theorem Amid.put (L : Layout settings fs root l paths) (A : Amid settings fs paths places cur) (hp : p ∈ paths)
    {k : Location} (hk : HasPlace settings fs p k) (octets : Bytes) (mode : Nat) :
    Amid settings fs paths (places ∪ {k}) (cur.put k (.file octets mode)) where
  wf := by
    have hfits := hk.fits L hp
    refine A.wf.put ⟨?_, hfits.ne_nil, hfits.names⟩ ?_ rfl
    · rw [A.agree.holdsDirectory]; exact hfits.parent
    · rw [A.agree.holdsDirectory]; exact hk.holdsDirectory L hp
  agree := agreeOff_put_union A.agree (hk.holdsDirectory L hp) octets mode
  known j hj := by
    rcases hj with hj | rfl
    · exact A.known j hj
    · exact ⟨p, hp, hk⟩
  stand j hj := by
    by_cases hjk : j = k
    · rw [hjk, find?_put_self cur (hk.fits L hp).ne_nil]
      simp
    · rw [find?_put_of_ne cur hjk]
      exact A.stand j (hj.resolve_right hjk)
  umask := A.umask
  denied := A.denied

/-- **One turn more.** -/
theorem Amid.turn (L : Layout settings fs root l paths) (A : Amid settings fs paths places cur) (hp : p ∈ paths)
    (ht : Turn settings dryRun cur p x mid) :
    (∃ places', places ⊆ places' ∧ Amid settings fs paths places' mid ∧
      ∀ k, k ∈ places' ↔ k ∈ places ∨ ∃ r, x = .ok r ∧ r.status = .written ∧ HasPlace settings fs p k) ∧
    ∀ k, ¬ HasPlace settings fs p k → mid.find? k = cur.find? k := by
  rcases L.turn_cases A.agree hp ht with ⟨rfl, hn⟩ | ⟨r, text, k, octets, mode, rfl, hr, hw, rfl⟩
  · refine ⟨⟨places, subset_rfl, A, fun k => ⟨Or.inl, ?_⟩⟩, fun _ _ => rfl⟩
    rintro (hk | ⟨r, hx, hr, -⟩)
    · exact hk
    · exact absurd hr (hn r hx)
  · refine ⟨⟨places ∪ {k}, Set.subset_union_left, A.put L hp hw.place octets mode, fun j => ?_⟩, fun j hj => ?_⟩
    · constructor
      · rintro (hj | rfl)
        · exact Or.inl hj
        · exact Or.inr ⟨r, rfl, hr, hw.place⟩
      · rintro (hj | ⟨-, -, -, hj⟩)
        · exact Or.inl hj
        · exact Or.inr (hj.unique hw.place)
    · exact find?_put_of_ne cur (fun hjk => hj (by rw [hjk]; exact hw.place)) _

/-- **Any number of turns.** -/
theorem Amid.trail (L : Layout settings fs root l paths) {ps : List Path} {rs : List FileResult}
    (t : Trail settings dryRun cur ps rs fs') (hps : ∀ p ∈ ps, p ∈ paths) (A : Amid settings fs paths places cur) :
    (∃ places', places ⊆ places' ∧ Amid settings fs paths places' fs' ∧
      ∀ k, k ∈ places' ↔ k ∈ places ∨ k ∈ writtenPlaces settings fs (ps.zip rs)) ∧
    ∀ k, (∀ p ∈ ps, ¬ HasPlace settings fs p k) → fs'.find? k = cur.find? k := by
  induction t generalizing places with
  | nil => exact ⟨⟨places, subset_rfl, A, by simp [writtenPlaces]⟩, fun _ _ => rfl⟩
  | @cons cur mid fs' p r ps rs ht t ih =>
    obtain ⟨⟨places', hsub, A', hplaces⟩, hoff⟩ := A.turn L (hps p List.mem_cons_self) ht
    obtain ⟨⟨places'', hsub', A'', hplaces'⟩, hoff'⟩ := ih (fun q hq => hps q (List.mem_cons_of_mem _ hq)) A'
    refine ⟨⟨places'', hsub.trans hsub', A'', fun k => ?_⟩, fun k hk => ?_⟩
    · simp [hplaces', hplaces, writtenPlaces, or_assoc]
    · rw [hoff' k fun q hq => hk q (List.mem_cons_of_mem _ hq), hoff k (hk p List.mem_cons_self)]

/-! ## Echoes -/

/-- how a descriptor is processed in a file system, next to how it is processed alone in the first one -/
inductive Echo (settings : Settings) (fs cur : FileSystem) (p : Path) :
    Except Trouble FileResult → FileSystem → Except Trouble FileResult → FileSystem → Prop
  /-- nothing is done in either -/
  | idle (x : Except Trouble FileResult) : Echo settings fs cur p x fs x cur
  /-- the same file is put at the same place -/
  | written {r : FileResult} {k : Location} {octets : Bytes} {mode : Nat} (hr : r.status = .written)
      (hk : HasPlace settings fs p k) :
      Echo settings fs cur p (.ok r) (fs.put k (.file octets mode)) (.ok r) (cur.put k (.file octets mode))
  /-- the path of the temporary file leads to nothing, and then through a file -/
  | obstructed {o : Path} {t : Text} (ho : outputPath p settings = .ok o) (ht : temporaryPath fs o = .ok t)
      (hfirst : fs.resolve .entry t = .error .noEntry) (hcur : cur.resolve .entry t = .error .notDirectory) :
      Echo settings fs cur p (.error (.failure (writeFailure o (OsCause.noEntry.on t)))) fs
        (.error (.failure (writeFailure o (OsCause.notDirectory.on t)))) cur

variable (L : Layout settings fs root l paths) (tidy : Tidy settings fs paths)

include L tidy

/-- the path of a declaration leads where it led at first -/
theorem Before.resolve_direct (hp : p ∈ paths) (ho : outputPath p settings = .ok o) (d : Direct fs o)
    (h : Before settings fs paths p places cur) {purpose : Purpose}
    (same : fs.resolve purpose o.toText = fs.resolve .entry o.toText) :
    cur.resolve purpose o.toText = fs.resolve purpose o.toText := by
  refine d.resolve_eq L.wf.grounded (L.starts hp ho) h.agree ?_ ?_ same
  · intro k hk target
    obtain ⟨q, hq, hqk⟩ := h.known k hk
    exact tidy.find?_ne_link L hq hqk target
  · intro t ht hm
    by_cases hd : t.isDirectory = true
    · -- a directory is no place
      have hh := resolve_holds L.wf.grounded (L.starts hp ho) ht
      have hb := h.agree.before _ hm
      cases t with
      | absent k => cases hd
      | entry k e =>
        have hf : fs.find? k = some e := hh
        simp only [Target.location, FileSystem.holdsDirectory, hf, Option.any_some] at hb
        exact absurd (hb.symm.trans hd) (by decide)
    · exact h.free _ (L.hasPlace_of_resolve hp ho ht (by simpa using hd)) hm

/-- **A replacement ends as it would have ended at first,** or its temporary file is obstructed. -/
theorem Before.replace_echo (hp : p ∈ paths) (ho : outputPath p settings = .ok o) (d : Direct fs o)
    (h : Before settings fs paths p places cur) (text : Text) :
    (cur.replace o text).2 = (fs.replace o text).2 ∨
      ∃ t, temporaryPath fs o = .ok t ∧ fs.resolve .entry t = .error .noEntry ∧
        cur.resolve .entry t = .error .notDirectory ∧
        (fs.replace o text).2 = .error (.os (OsCause.noEntry.on t)) ∧
        (cur.replace o text).2 = .error (.os (OsCause.notDirectory.on t)) := by
  have hproper := L.isProper hp ho
  have hne := L.names_ne_nil hp ho
  have hentry := h.resolve_direct L tidy hp ho d rfl
  have htarget := h.resolve_direct L tidy hp ho d d.resolve_target
  rw [replace_eq_answer L.wf.grounded hproper hne d,
    replace_eq_answer (h.agree.grounded L.wf.grounded) hproper hne (d.congr hentry)]
  have hpath := h.temporaryPath_eq L tidy hp ho
  cases ht : temporaryPath fs o with
  | error c => exact Or.inl (answer_congr hpath (by simp [ht]) htarget hentry)
  | ok t =>
    have ht' : temporaryPath cur o = .ok t := hpath.trans ht
    have same (hlocate : cur.locate .entry t = fs.locate .entry t) : answer cur o text = answer fs o text := by
      refine answer_congr hpath ?_ htarget hentry
      intro u hu
      obtain rfl : t = u := Except.ok.inj (ht.symm.trans hu)
      exact hlocate
    cases hu : unusable t with
    | some c => exact Or.inl (same (by simp [locate, hu]))
    | none =>
      rcases h.resolve_temporary L tidy hp ho ht hu with he | ⟨m, d1, d2, h1, h2⟩ | ⟨h1, h2⟩
      · exact Or.inl (same (by simp [locate, hu, he]))
      · exact Or.inl ((answer_of_taken ht' hu h2).trans (answer_of_taken ht hu h1).symm)
      · exact Or.inr ⟨t, rfl, h1, h2, answer_of_temporary ht hu h1, answer_of_temporary ht' hu h2⟩

/-- **The turn of a descriptor** echoes its turn in the first file system. -/
theorem Amid.echo (sep : Separate settings) (hp : p ∈ paths) (A : Amid settings fs paths places cur)
    (free : ∀ k, HasPlace settings fs p k → k ∉ places) {y : Except Trouble FileResult}
    (h : Processed settings dryRun fs p y mid) :
    ∃ z mid', Processed settings dryRun cur p z mid' ∧ Echo settings fs cur p y mid z mid' := by
  rcases places.eq_empty_or_nonempty with rfl | ⟨j, hj⟩
  · obtain rfl := A.eq_first L
    refine ⟨y, mid, h, ?_⟩
    rcases L.processed_cases A.agree hp h with rfl | ⟨r, k, octets, mode, rfl, hr, hk, rfl⟩
    · exact .idle y
    · exact .written hr hk
  · -- some declaration has a place, so the path of this one is direct
    obtain ⟨q, hq, hqj⟩ := A.known j hj
    have direct : ∀ {o : Path}, outputPath p settings = .ok o → Direct fs o := fun ho => L.direct tidy hp ho hq hqj
    have B := A.before free
    have g := L.wf.grounded
    have hdecl := L.declarationAt_eq tidy sep hp A.agree A.known
    have kept : ∀ {o : Path} {text : Text} {c : Crash}, outputPath p settings = .ok o →
        (fs.replace o text).2 = .error c → (fs.replace o text).1 = fs :=
      fun ho hw => replace_of_error g (L.isProper hp ho) hw
    have kept' : ∀ {o : Path} {text : Text} {c : Crash}, outputPath p settings = .ok o →
        (cur.replace o text).2 = .error c → (cur.replace o text).1 = cur :=
      fun ho hw => replace_of_error A.wf.grounded (L.isProper hp ho) hw
    cases h with
    | undeclared h => exact ⟨_, _, .undeclared (hdecl.trans h), .idle _⟩
    | unnamed h ho => exact ⟨_, _, .unnamed (hdecl.trans h) ho, .idle _⟩
    | planned h ho hd => exact ⟨_, _, .planned (hdecl.trans h) ho hd, .idle _⟩
    | @unread text o c h ho hd hc =>
      exact ⟨_, _, .unread (hdecl.trans h) ho hd ((B.hasContent_eq L tidy hp ho text).trans hc), .idle _⟩
    | @unchanged text o h ho hd hc =>
      exact ⟨_, _, .unchanged (hdecl.trans h) ho hd ((B.hasContent_eq L tidy hp ho text).trans hc), .idle _⟩
    | @written text o h ho hd hc hw =>
      have hc' := (B.hasContent_eq L tidy hp ho text).trans hc
      have hw' := (B.replace_ok_iff L tidy hp ho text).2 hw
      have hentry := B.resolve_direct L tidy hp ho (direct ho) rfl
      obtain ⟨k, octets, mode, hk, e, e'⟩ :=
        (direct ho).replace_put g A.wf.grounded (L.isProper hp ho) (L.names_ne_nil hp ho) hentry A.umask hw hw'
      refine ⟨_, _, .written (hdecl.trans h) ho hd hc' hw', ?_⟩
      rw [e, e']
      exact .written rfl ⟨o, ho, hk⟩
    | @refused text o c h ho hd hc hw =>
      have hc' := (B.hasContent_eq L tidy hp ho text).trans hc
      rcases B.replace_echo L tidy hp ho (direct ho) text with hsame | ⟨t, ht, hfirst, hcur, h1, h2⟩
      · have hw' := hsame.trans hw
        refine ⟨_, _, .refused (hdecl.trans h) ho hd hc' hw', ?_⟩
        rw [kept ho hw, kept' ho hw']
        exact .idle _
      · obtain rfl := Crash.os.inj (Except.error.inj (hw.symm.trans h1))
        refine ⟨_, _, .refused (hdecl.trans h) ho hd hc' h2, ?_⟩
        rw [kept ho hw, kept' ho h2]
        exact .obstructed ho ht hfirst hcur
    | @unwritten text o c h ho hd hc hw hos =>
      have hc' := (B.hasContent_eq L tidy hp ho text).trans hc
      rcases B.replace_echo L tidy hp ho (direct ho) text with hsame | ⟨t, -, -, -, h1, -⟩
      · have hw' := hsame.trans hw
        refine ⟨_, _, .unwritten (hdecl.trans h) ho hd hc' hw' hos, ?_⟩
        rw [kept ho hw, kept' ho hw']
        exact .idle _
      · exact absurd (Except.error.inj (hw.symm.trans h1)) (hos _)

end Generate
end Typings
