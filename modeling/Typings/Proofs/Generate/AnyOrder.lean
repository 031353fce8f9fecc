/-
Any order of descriptors.

A directory may be listed in any order, so a run may take its descriptors in any order. Over a tidy tree, with suffixes
that do not overlap:
- `Layout.trail_echo`: every turn of a run comes out as the turn of its descriptor alone.
- `Amid.trail_exists`: descriptors of which none crashes alone can be taken in any order.
- `processAll_any_order`: all orders leave the same file system and give each descriptor the same result. A run that
  comes to its end in one order does so in every order.
- `order_shows`: only the cause of a refusal may differ. A temporary file whose path leads through the place of
  another declaration is refused either way, for nothing is there at first, and a file later.
-/
import Typings.Proofs.Generate.Among

namespace Typings.Generate

open FileSystem Replace

variable {settings : Settings} {fs fs' cur mid mid₀ : FileSystem} {root : Path} {l : Location} {paths ps qs : List Path}
  {p q o : Path} {places places' : Set Location} {dryRun : Bool} {r r₀ r' : FileResult} {rs rs' : List FileResult}

/-! ## Results -/

/-- the causes for which an obstructed temporary file is refused, before and after -/
def IsObstruction (cause : OsCause) : Prop := cause = .noEntry ∨ cause = .notDirectory

/-- two results of a descriptor are the same, but for the cause for which its temporary file is refused: its path leads
to nothing in one file system, and through a file in another -/
inductive SameResult (settings : Settings) (fs fs' : FileSystem) (p : Path) : FileResult → FileResult → Prop
  | same (r : FileResult) : SameResult settings fs fs' p r r
  | obstructed {o : Path} {t : Text} {cause cause' : OsCause} (ho : outputPath p settings = .ok o)
      (ht : temporaryPath fs o = .ok t) (hfirst : fs.resolve .entry t = .error .noEntry)
      (hlast : fs'.resolve .entry t = .error .notDirectory) (hc : IsObstruction cause) (hc' : IsObstruction cause') :
      SameResult settings fs fs' p (failedResult p (writeFailure o (cause.on t)))
        (failedResult p (writeFailure o (cause'.on t)))

theorem SameResult.symm (h : SameResult settings fs fs' p r r') : SameResult settings fs fs' p r' r := by
  cases h with
  | same => exact .same r
  | obstructed ho ht hfirst hlast hc hc' => exact .obstructed ho ht hfirst hlast hc' hc

theorem SameResult.trans (h : SameResult settings fs fs' p r₀ r) (h' : SameResult settings fs fs' p r r') :
    SameResult settings fs fs' p r₀ r' := by
  cases h with
  | same => exact h'
  | obstructed ho ht hfirst hlast hc hc' =>
    generalize hr : failedResult p _ = r at h'
    cases h' with
    | same =>
      rw [← hr]
      exact .obstructed ho ht hfirst hlast hc hc'
    | obstructed ho₁ ht₁ _ _ _ hc₁ =>
      obtain rfl := Except.ok.inj (ho.symm.trans ho₁)
      obtain rfl := Except.ok.inj (ht.symm.trans ht₁)
      exact .obstructed ho ht hfirst hlast hc hc₁

/-- all but the text of the error is the same in any case -/
theorem SameResult.fields (h : SameResult settings fs fs' p r r') :
    r'.source = r.source ∧ r'.output = r.output ∧ r'.status = r.status ∧ r'.exitCode = r.exitCode := by
  cases h with
  | same => exact ⟨rfl, rfl, rfl, rfl⟩
  | obstructed => exact ⟨rfl, rfl, rfl, rfl⟩

/-! ## Turns -/

section

variable (L : Layout settings fs root l paths) (tidy : Tidy settings fs paths)

include L tidy

/-- what obstructs a temporary file stays -/
theorem Amid.still_obstructed (A : Amid settings fs paths places cur) (A' : Amid settings fs paths places' fs')
    (hsub : places ⊆ places') (hp : p ∈ paths) (ho : outputPath p settings = .ok o) {t : Text}
    (ht : temporaryPath fs o = .ok t) (h : cur.resolve .entry t = .error .notDirectory) :
    fs'.resolve .entry t = .error .notDirectory := by
  have hs : cur.Starts t := by
    have hs := (starts_of_temporaryPath L.wf.grounded (L.isProper hp ho) ht).1
    rwa [Starts, A.agree.cwd, A.agree.holdsDirectory]
  rcases resolve_agrees (A.agree.between A'.agree hsub) A.wf.grounded .entry hs with
    ⟨he, -⟩ | ⟨m, hm, way, he, hr, hopen⟩
  · exact he.trans h
  · have hlink : ∀ target, cur.find? m ≠ some (.link target) := by
      intro target hf
      by_cases hmp : m ∈ places
      · exact (A.agree.after m hmp _ hf).2 target rfl
      · obtain ⟨q, hq, hk⟩ := A'.known m hm
        rw [A.agree.same m hmp] at hf
        exact tidy.find?_ne_link L hq hk target hf
    have hr := hr (Or.inl hlink)
    rw [h] at hr
    obtain ⟨e, hf'⟩ := Option.ne_none_iff_exists'.1 (A'.stand m hm)
    rw [hf'] at he
    cases way with
    | last => cases hf : cur.find? m <;> simp [hf, meet] at hr
    | opened => simp [endsOpen_temporaryPath ht] at hopen
    | onward => exact he

variable (sep : Separate settings) (hf : settings.failFast = false)

include sep hf

/-- a turn that gives a result alone gives the same one amid others, and leaves the same at the place of its
declaration -/
theorem Amid.turn_ok (hp : p ∈ paths) (A : Amid settings fs paths places cur)
    (free : ∀ k, HasPlace settings fs p k → k ∉ places) (h : Turn settings dryRun fs p (.ok r₀) mid₀) :
    ∃ r mid, Turn settings dryRun cur p (.ok r) mid ∧ SameResult settings fs cur p r₀ r ∧
      ∀ k, HasPlace settings fs p k → mid.find? k = mid₀.find? k := by
  have stays : ∀ k, HasPlace settings fs p k → cur.find? k = fs.find? k := fun k hk => A.agree.same k (free k hk)
  cases h with
  | done h =>
    obtain ⟨z, mid', hz, hecho⟩ := A.echo L tidy sep hp free h
    cases hecho with
    | idle => exact ⟨r₀, cur, .done hz, .same r₀, stays⟩
    | @written _ k octets mode hr hk =>
      refine ⟨r₀, _, .done hz, .same r₀, fun j hj => ?_⟩
      obtain rfl := hj.unique hk
      have hne := (hk.fits L hp).ne_nil
      rw [find?_put_self cur hne, find?_put_self fs hne]
  | skipped _ h =>
    obtain ⟨z, mid', hz, hecho⟩ := A.echo L tidy sep hp free h
    cases hecho with
    | idle => exact ⟨_, cur, .skipped hf hz, .same _, stays⟩
    | obstructed ho ht hfirst hcur =>
      exact ⟨_, cur, .skipped hf hz, .obstructed ho ht hfirst hcur (Or.inl rfl) (Or.inr rfl), stays⟩

/-- a turn that gives a result amid others gives one alone -/
theorem Amid.turn_alone (hp : p ∈ paths) (A : Amid settings fs paths places cur)
    (free : ∀ k, HasPlace settings fs p k → k ∉ places) (h : Turn settings dryRun cur p (.ok r) mid) :
    ∃ r₀ mid₀, Turn settings dryRun fs p (.ok r₀) mid₀ := by
  have ht := attempt_turn settings dryRun p ⟨fs, []⟩
  generalize (attempt settings dryRun p).run ⟨fs, []⟩ = out at ht
  obtain ⟨x, s⟩ := out
  cases ht with
  | done h' => exact ⟨_, _, .done h'⟩
  | skipped hf h' => exact ⟨_, _, .skipped hf h'⟩
  | stopped hf' => rw [hf] at hf'; cases hf'
  | crashed h' =>
    -- a crash alone would be a crash here
    obtain ⟨z, mid', hz, hecho⟩ := A.echo L tidy sep hp free h'
    cases hecho with
    | idle => cases ((Turn.crashed hz).unique h).1

/-! ## Trails -/

/-- **Every turn of a run echoes** the turn of its descriptor alone. -/
theorem Layout.trail_echo (t : Trail settings dryRun fs ps rs fs') (hps : ∀ p ∈ ps, p ∈ paths) (hnd : ps.Nodup)
    (hpr : (p, r) ∈ ps.zip rs) :
    ∃ r₀ mid₀, Turn settings dryRun fs p (.ok r₀) mid₀ ∧ SameResult settings fs fs' p r₀ r ∧
      ∀ k, HasPlace settings fs p k → fs'.find? k = mid₀.find? k := by
  obtain ⟨before, after, rs₁, rs₂, cur, mid, rfl, t₁, ht, t₂⟩ := t.turn_of_mem hpr
  have hp : p ∈ paths := hps p (by simp)
  have hbefore : ∀ q ∈ before, q ∈ paths := fun q hq => hps q (by simp [hq])
  have hafter : ∀ q ∈ after, q ∈ paths := fun q hq => hps q (by simp [hq])
  obtain ⟨⟨places, -, A, hplaces⟩, -⟩ := (Amid.first L.wf).trail L t₁ hbefore
  obtain ⟨⟨places₁, hsub₁, A₁, -⟩, -⟩ := A.turn L hp ht
  obtain ⟨⟨places₂, hsub₂, A₂, -⟩, hstays⟩ := A₁.trail L t₂ hafter
  have hapart := (List.nodup_append.1 hnd)
  have hpafter : p ∉ after := (List.nodup_cons.1 hapart.2.1).1
  have free : ∀ k, HasPlace settings fs p k → k ∉ places := by
    intro k hk hm
    rcases (hplaces k).1 hm with hm | ⟨⟨q, rq⟩, hx, -, hqk⟩
    · exact hm
    · have hq : q ∈ before := (List.of_mem_zip hx).1
      have hpq : p = q := L.place_injective hp (hbefore q hq) hk hqk
      exact hapart.2.2 q hq p List.mem_cons_self hpq.symm
  obtain ⟨r₀, mid₀, h₀⟩ := A.turn_alone L tidy sep hf hp free ht
  obtain ⟨r', mid', ht', hsame, hplace⟩ := A.turn_ok L tidy sep hf hp free h₀
  obtain ⟨hr, rfl⟩ := ht.unique ht'
  obtain rfl := Except.ok.inj hr
  refine ⟨r₀, mid₀, h₀, ?_, fun k hk => ?_⟩
  · cases hsame with
    | same => exact .same r
    | obstructed ho htemp hfirst hcur hc hc' =>
      exact .obstructed ho htemp hfirst
        (A.still_obstructed L tidy A₂ (hsub₁.trans hsub₂) hp ho htemp hcur) hc hc'
  · have hothers : ∀ q ∈ after, ¬ HasPlace settings fs q k := by
      intro q hq hqk
      have hpq : p = q := L.place_injective hp (hafter q hq) hk hqk
      exact hpafter (hpq ▸ hq)
    rw [hstays k hothers, hplace k hk]

/-- descriptors that give results alone can be taken one after the other -/
theorem Amid.trail_exists (A : Amid settings fs paths places cur) (hps : ∀ p ∈ ps, p ∈ paths) (hnd : ps.Nodup)
    (free : ∀ p ∈ ps, ∀ k, HasPlace settings fs p k → k ∉ places)
    (h : ∀ p ∈ ps, ∃ r mid, Turn settings dryRun fs p (.ok r) mid) :
    ∃ rs fs', Trail settings dryRun cur ps rs fs' := by
  induction ps generalizing cur places with
  | nil => exact ⟨[], cur, .nil cur⟩
  | cons p ps ih =>
    have hp : p ∈ paths := hps p List.mem_cons_self
    obtain ⟨hpnot, hnd⟩ := List.nodup_cons.1 hnd
    obtain ⟨r₀, mid₀, h₀⟩ := h p List.mem_cons_self
    obtain ⟨r, mid, ht, -, -⟩ := A.turn_ok L tidy sep hf hp (free p List.mem_cons_self) h₀
    obtain ⟨⟨places', -, A', hplaces⟩, -⟩ := A.turn L hp ht
    have hps' : ∀ q ∈ ps, q ∈ paths := fun q hq => hps q (List.mem_cons_of_mem _ hq)
    have free' : ∀ q ∈ ps, ∀ k, HasPlace settings fs q k → k ∉ places' := by
      intro q hq k hqk hm
      rcases (hplaces k).1 hm with hm | ⟨-, -, -, hpk⟩
      · exact free q (List.mem_cons_of_mem _ hq) k hqk hm
      · have hqp : q = p := L.place_injective (hps' q hq) hp hqk hpk
        exact hpnot (hqp ▸ hq)
    obtain ⟨rs, fs', t⟩ := ih A' hps' hnd free' fun q hq => h q (List.mem_cons_of_mem _ hq)
    exact ⟨r :: rs, fs', .cons ht t⟩

/-- **Two orders of the same descriptors** lead to the same file system with the same results. -/
theorem Layout.trail_any_order (hps : ps.Perm paths) (hqs : qs.Perm paths)
    (t : Trail settings dryRun fs ps rs fs') :
    ∃ rs', Trail settings dryRun fs qs rs' fs' ∧
      ∀ x ∈ qs.zip rs', ∃ r, (x.1, r) ∈ ps.zip rs ∧ SameResult settings fs fs' x.1 r x.2 := by
  have hpmem : ∀ p ∈ ps, p ∈ paths := fun p => hps.mem_iff.1
  have hqmem : ∀ q ∈ qs, q ∈ paths := fun q => hqs.mem_iff.1
  have hpnd : ps.Nodup := hps.nodup_iff.2 L.nodup
  have hqnd : qs.Nodup := hqs.nodup_iff.2 L.nodup
  have hmem : ∀ q, q ∈ qs ↔ q ∈ ps := fun q => hqs.mem_iff.trans hps.mem_iff.symm
  -- each descriptor has a result in the first order, so it has one alone, so it has one in the second order
  have alone : ∀ q ∈ qs, ∃ r mid, Turn settings dryRun fs q (.ok r) mid := by
    intro q hq
    obtain ⟨r, hr⟩ := t.exists_mem ((hmem q).1 hq)
    obtain ⟨r₀, mid₀, h₀, -, -⟩ := L.trail_echo tidy sep hf t hpmem hpnd hr
    exact ⟨r₀, mid₀, h₀⟩
  obtain ⟨rs', fs₂, t'⟩ := (Amid.first L.wf).trail_exists L tidy sep hf hqmem hqnd (by simp) alone
  obtain ⟨⟨_, _, A, -⟩, hoff⟩ := (Amid.first L.wf).trail L t hpmem
  obtain ⟨⟨_, _, A', -⟩, hoff'⟩ := (Amid.first L.wf).trail L t' hqmem
  have paired : ∀ x ∈ qs.zip rs', ∃ r r₀ mid₀, (x.1, r) ∈ ps.zip rs ∧ Turn settings dryRun fs x.1 (.ok r₀) mid₀ ∧
      SameResult settings fs fs' x.1 r₀ r ∧ SameResult settings fs fs₂ x.1 r₀ x.2 ∧
      ∀ k, HasPlace settings fs x.1 k → fs₂.find? k = fs'.find? k := by
    rintro ⟨q, r'⟩ hx
    obtain ⟨r, hr⟩ := t.exists_mem ((hmem q).1 (List.of_mem_zip hx).1)
    obtain ⟨r₀, mid₀, h₀, hsame, hplace⟩ := L.trail_echo tidy sep hf t hpmem hpnd hr
    obtain ⟨r₁, mid₁, h₁, hsame', hplace'⟩ := L.trail_echo tidy sep hf t' hqmem hqnd hx
    obtain ⟨he, rfl⟩ := h₀.unique h₁
    obtain rfl := Except.ok.inj he
    exact ⟨r, r₀, mid₀, hr, h₀, hsame, hsame', fun k hk => by rw [hplace k hk, hplace' k hk]⟩
  have final : fs₂ = fs' := by
    refine A.wf.ext A'.wf (fun k => ?_) (A'.agree.cwd.trans A.agree.cwd.symm) (A'.umask.trans A.umask.symm)
      (A'.denied.trans A.denied.symm) (A'.agree.choices.trans A.agree.choices.symm)
    by_cases hk : ∃ q ∈ qs, HasPlace settings fs q k
    · obtain ⟨q, hq, hqk⟩ := hk
      obtain ⟨r', hr'⟩ := t'.exists_mem hq
      obtain ⟨r, r₀, mid₀, -, -, -, -, hplace⟩ := paired _ hr'
      exact hplace k hqk
    · have hnone : ∀ q ∈ qs, ¬ HasPlace settings fs q k := fun q hq hqk => hk ⟨q, hq, hqk⟩
      rw [hoff' k hnone, hoff k fun q hq => hnone q ((hmem q).2 hq)]
  subst final
  refine ⟨rs', t', fun x hx => ?_⟩
  obtain ⟨r, r₀, mid₀, hr, -, hsame, hsame', -⟩ := paired x hx
  exact ⟨r, hr, hsame.symm.trans hsame'⟩

end

/-! ## Runs -/

/-- **The order does not matter.** Over a tidy tree, with suffixes that do not overlap, a run that goes through the
descriptors in one order and comes to its end does so in every order. It leaves the same file system and gives each
descriptor the same result, up to the cause for which an obstructed temporary file is refused. -/
theorem processAll_any_order (wf : fs.WellFormed) (sep : Separate settings) (hf : settings.failFast = false)
    (hw : fs.walkSuffix (Path.ofText settings.sourceDir) settings.descriptorSuffix = .ok paths)
    (tidy : Tidy settings fs paths) (dryRun : Bool) (hps : ps.Perm paths) (hqs : qs.Perm paths)
    (notices notices' : List Notice) (h : ((processAll settings dryRun none ps).run ⟨fs, notices⟩).1 = .ok rs) :
    ∃ rs', ((processAll settings dryRun none qs).run ⟨fs, notices'⟩).1 = .ok rs' ∧
      ((processAll settings dryRun none qs).run ⟨fs, notices'⟩).2.fs =
        ((processAll settings dryRun none ps).run ⟨fs, notices⟩).2.fs ∧
      rs'.map FileResult.source = qs.map Path.toText ∧
      ∀ x ∈ qs.zip rs', ∃ r, (x.1, r) ∈ ps.zip rs ∧
        SameResult settings fs ((processAll settings dryRun none ps).run ⟨fs, notices⟩).2.fs x.1 r x.2 := by
  obtain ⟨root, l, -, -, L⟩ := layout_of_walk wf sep.descriptorSuffix_ne_nil hw
  have t := processAll_ok_iff.1 ⟨h, rfl⟩
  obtain ⟨rs', t', hsame⟩ := L.trail_any_order tidy sep hf hps hqs t
  obtain ⟨hok, hfs⟩ := (processAll_ok_iff (s := ⟨fs, notices'⟩)).2 t'
  exact ⟨rs', hok, hfs, t'.sources, hsame⟩

/-- two descriptors, taken in one order and in the other -/
theorem processAll_any_order_two :
    let fs : FileSystem := ⟨[([("d" : Text)], .directory 0o755),
      (["d", "A.json"], .file (Utf8.encodeAll "\x7b\"name\":\"A\",\"methods\":[]\x7d") 0o644),
      (["d", "B.json"], .file (Utf8.encodeAll "\x7b\"name\":\"B\"\x7d") 0o644)], [], 0o022, [], .usual⟩
    let settings : Settings := ⟨"d", ".json", ".d.ts", false⟩
    let a : Path := ⟨"/", ["d", "A.json"]⟩
    let b : Path := ⟨"/", ["d", "B.json"]⟩
    fs.WellFormed ∧ Separate settings ∧ settings.failFast = false ∧
      fs.walkSuffix (Path.ofText settings.sourceDir) settings.descriptorSuffix = .ok [a, b] ∧
      Tidy settings fs [a, b] ∧
      ∃ rs, ((processAll settings false none [a, b]).run ⟨fs, []⟩).1 = .ok rs ∧
        ∃ rs', ((processAll settings false none [b, a]).run ⟨fs, []⟩).1 = .ok rs' ∧
          ((processAll settings false none [b, a]).run ⟨fs, []⟩).2.fs =
            ((processAll settings false none [a, b]).run ⟨fs, []⟩).2.fs ∧
          rs'.map FileResult.source = [b, a].map Path.toText ∧
          ∀ x ∈ [b, a].zip rs', ∃ r, (x.1, r) ∈ [a, b].zip rs ∧
            SameResult settings fs ((processAll settings false none [a, b]).run ⟨fs, []⟩).2.fs x.1 r x.2 := by
  intro fs settings a b
  have wf : fs.WellFormed := by decide
  have sep : Separate settings := by decide
  have hw : fs.walkSuffix (Path.ofText settings.sourceDir) settings.descriptorSuffix = .ok [a, b] := by
    decide +kernel
  have tidy : Tidy settings fs [a, b] := by decide +kernel
  have hok : ((processAll settings false none [a, b]).run ⟨fs, []⟩).1.isOk = true := by decide +kernel
  refine ⟨wf, sep, rfl, hw, tidy, ?_⟩
  cases hrun : ((processAll settings false none [a, b]).run ⟨fs, []⟩).1 with
  | error e => rw [hrun] at hok; cases hok
  | ok rs =>
    exact ⟨rs, rfl, processAll_any_order wf sep rfl hw tidy false (.refl _) (.swap a b []) [] [] hrun⟩

/-- **The order may show in the text of an error.** The source directory is written with a link and a double dot. The
temporary file of `Foo` is then looked for in `a/d/e`, a link to the place of the declaration of `Bar`: there is nothing
before `Bar` has its turn, and a file afterwards. -/
theorem order_shows :
    let fs : FileSystem := ⟨[([("a" : Text)], .directory 0o755), (["a", "d"], .directory 0o755),
      (["a", "d", "e"], .link "../../x/d/Bar.d.ts"), (["a", "link"], .link "../x/y"), (["x"], .directory 0o755),
      (["x", "d"], .directory 0o755),
      (["x", "d", "Bar.json"], .file (Utf8.encodeAll "\x7b\"name\":\"Bar\",\"methods\":[]\x7d") 0o644),
      (["x", "d", "e"], .directory 0o755),
      (["x", "d", "e", "Foo.json"], .file (Utf8.encodeAll "\x7b\"name\":\"Foo\",\"methods\":[]\x7d") 0o644),
      (["x", "y"], .directory 0o755)], [], 0o022, [], .usual⟩
    let settings : Settings := ⟨"a/link/..", ".json", ".d.ts", false⟩
    let bar : Path := ⟨"/", ["a", "link", "..", "d", "Bar.json"]⟩
    let foo : Path := ⟨"/", ["a", "link", "..", "d", "e", "Foo.json"]⟩
    let declared : FileResult := ⟨bar.toText, some "/a/link/../d/Bar.d.ts", .written, none, none⟩
    let refused (cause : Text) : FileResult := ⟨foo.toText, none, .failed,
      some ("Failed to write /a/link/../d/e/Foo.d.ts: " ++ cause ++ ": '/a/d/e/.Foo.d.ts.00000000.tmp'"), some 5⟩
    fs.WellFormed ∧ Separate settings ∧ settings.failFast = false ∧
      fs.walkSuffix (Path.ofText settings.sourceDir) settings.descriptorSuffix = .ok [bar, foo] ∧
      Tidy settings fs [bar, foo] ∧
      ((processAll settings false none [foo, bar]).run ⟨fs, []⟩).1 =
        .ok [refused "[Errno 2] No such file or directory", declared] ∧
      ((processAll settings false none [bar, foo]).run ⟨fs, []⟩).1 =
        .ok [declared, refused "[Errno 20] Not a directory"] ∧
      refused "[Errno 2] No such file or directory" ≠ refused "[Errno 20] Not a directory" := by
  intro fs settings bar foo declared refused
  refine ⟨by decide, by decide, rfl, ?_, ?_, ?_, ?_, ?_⟩
  · decide +kernel
  · decide +kernel
  · decide +kernel
  · decide +kernel
  · decide +kernel

end Typings.Generate
