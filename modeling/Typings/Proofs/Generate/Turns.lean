/-
Turns of a run: what processing one descriptor can do, and how a run goes through its descriptors.

- `processFile_handled`: the ways in which a descriptor is processed, up to a replacement that may be disturbed.
  `processFile_processed`: the ways in which it is processed undisturbed.
- `attempt_turn`: a failure is recorded or ends the run; a crash always ends it.
- `processAll_course`: a run goes through a prefix of its descriptors, turn after turn, and ends after the last one,
  with an interrupt, or in a turn.
- `processAll_append`: a run through descriptors is one through the first of them and then one through the others.
- `processAll_ok_iff`, `run_ok_iff`: without an interrupt a run comes to its end exactly when each descriptor has its
  turn.
- `processAll_ended`, `processAll_interrupted`: a turn or an interrupt ends a run after the turns before it.
  `processAll_late`: an interrupt behind the last descriptor is none.
-/
import Typings.Generate
import Typings.Proofs.FileSystem.Tree

namespace Typings

/-! ## Running on a scene -/

namespace Running

variable {α β : Type}

theorem run_bind (m : Running α) (f : α → Running β) (s : Scene) :
    (m >>= f).run s = match m.run s with
      | (.ok a, s') => (f a).run s'
      | (.error e, s') => (.error e, s') := by
  change (match m.run s with | (a, s') => ExceptT.bindCont f a s') = _
  rcases m.run s with ⟨a | a, s'⟩ <;> rfl

@[simp] theorem run_pure (a : α) (s : Scene) : (pure a : Running α).run s = (.ok a, s) := rfl

@[simp] theorem run_get (s : Scene) : (get : Running Scene).run s = (.ok s, s) := rfl

@[simp] theorem run_tell (n : Notice) (s : Scene) :
    (tell n).run s = (.ok (), { s with notices := s.notices ++ [n] }) := rfl

@[simp] theorem run_lift (x : Except Trouble α) (s : Scene) : (lift x).run s = (x.mapError Ending.trouble, s) := by
  cases x <;> rfl

theorem run_tryCatch (m : Running α) (f : Ending → Running α) (s : Scene) :
    (tryCatch m f : Running α).run s = match m.run s with
      | (.ok a, s') => (.ok a, s')
      | (.error e, s') => (f e).run s' := by
  have h : (tryCatch m f : Running α) = ExceptT.tryCatch m f := rfl
  have hm : m.run s = m s := rfl
  rw [h, hm, ExceptT.tryCatch, ExceptT.run_mk]
  simp only [bind, StateT.bind]
  rcases m s with ⟨a | a, s'⟩ <;> rfl

end Running

namespace Generate

variable {settings : Settings} {dryRun : Bool} {fs fs' : FileSystem} {p : Path}

/-! ## One descriptor -/

/-- the failure to write a declaration for the descriptor at a path -/
def writeFailure (o : Path) (e : OsError) : Failure :=
  Failure.of (.storage (some o)) ("Failed to write " ++ o.toText ++ ": " ++ e.message)

/-- how the descriptor at a path is processed, and what the file system is then -/
inductive Processed (settings : Settings) (dryRun : Bool) (fs : FileSystem) (p : Path) :
    Except Trouble FileResult → FileSystem → Prop
  | undeclared {t : Trouble} (h : declarationAt fs p = .error t) : Processed settings dryRun fs p (.error t) fs
  | unnamed {text : Text} {fault : Path.NameFault} (h : declarationAt fs p = .ok text)
      (ho : outputPath p settings = .error fault) :
      Processed settings dryRun fs p (.error (.crash (.value fault.message))) fs
  | planned {text : Text} {o : Path} (h : declarationAt fs p = .ok text) (ho : outputPath p settings = .ok o)
      (hd : dryRun = true) : Processed settings dryRun fs p (.ok (result p o .planned)) fs
  | unread {text : Text} {o : Path} {c : Crash} (h : declarationAt fs p = .ok text)
      (ho : outputPath p settings = .ok o) (hd : dryRun = false) (hc : hasContent fs o text = .error c) :
      Processed settings dryRun fs p (.error (.crash c)) fs
  | unchanged {text : Text} {o : Path} (h : declarationAt fs p = .ok text) (ho : outputPath p settings = .ok o)
      (hd : dryRun = false) (hc : hasContent fs o text = .ok true) :
      Processed settings dryRun fs p (.ok (result p o .unchanged)) fs
  | written {text : Text} {o : Path} (h : declarationAt fs p = .ok text) (ho : outputPath p settings = .ok o)
      (hd : dryRun = false) (hc : hasContent fs o text = .ok false) (hw : (fs.replace o text).2 = .ok ()) :
      Processed settings dryRun fs p (.ok (result p o .written)) (fs.replace o text).1
  | refused {text : Text} {o : Path} {e : OsError} (h : declarationAt fs p = .ok text)
      (ho : outputPath p settings = .ok o) (hd : dryRun = false) (hc : hasContent fs o text = .ok false)
      (hw : (fs.replace o text).2 = .error (.os e)) :
      Processed settings dryRun fs p (.error (.failure (writeFailure o e))) (fs.replace o text).1
  | unwritten {text : Text} {o : Path} {c : Crash} (h : declarationAt fs p = .ok text)
      (ho : outputPath p settings = .ok o) (hd : dryRun = false) (hc : hasContent fs o text = .ok false)
      (hw : (fs.replace o text).2 = .error c) (hos : ∀ e, c ≠ .os e) :
      Processed settings dryRun fs p (.error (.crash c)) (fs.replace o text).1

/-- how a run goes on when a replacement has ended -/
def afterWrite (o : Path) : Except Replace.Halt Unit → Except Ending Unit
  | .ok () => .ok ()
  | .error .interrupt => .error .interrupt
  | .error (.crash (.os e)) => .error (.trouble (.failure (writeFailure o e)))
  | .error (.crash c) => .error (.trouble (.crash c))

theorem write_run (strike : Option Replace.Strike) (p : Path) (text : Text) (s : Scene) :
    (write strike p text).run s = (afterWrite p (Replace.run s.fs p text strike).result,
      { s with fs := (Replace.run s.fs p text strike).fs }) := by
  simp only [write, Running.run_bind, Running.run_get]
  rcases Replace.run s.fs p text strike with ⟨fs', r⟩
  rcases r with (c | _) | u
  · cases c <;> rfl
  · rfl
  · rfl

/-- how a descriptor is processed if a disturbance may strike while its declaration is written -/
inductive Handled (settings : Settings) (dryRun : Bool) (strike : Option Replace.Strike) (fs : FileSystem) (p : Path) :
    Except Ending FileResult → FileSystem → Prop
  | undeclared {t : Trouble} (h : declarationAt fs p = .error t) :
      Handled settings dryRun strike fs p (.error (.trouble t)) fs
  | unnamed {text : Text} {fault : Path.NameFault} (h : declarationAt fs p = .ok text)
      (ho : outputPath p settings = .error fault) :
      Handled settings dryRun strike fs p (.error (.trouble (.crash (.value fault.message)))) fs
  | planned {text : Text} {o : Path} (h : declarationAt fs p = .ok text) (ho : outputPath p settings = .ok o)
      (hd : dryRun = true) : Handled settings dryRun strike fs p (.ok (result p o .planned)) fs
  | unread {text : Text} {o : Path} {c : Crash} (h : declarationAt fs p = .ok text)
      (ho : outputPath p settings = .ok o) (hd : dryRun = false) (hc : hasContent fs o text = .error c) :
      Handled settings dryRun strike fs p (.error (.trouble (.crash c))) fs
  | unchanged {text : Text} {o : Path} (h : declarationAt fs p = .ok text) (ho : outputPath p settings = .ok o)
      (hd : dryRun = false) (hc : hasContent fs o text = .ok true) :
      Handled settings dryRun strike fs p (.ok (result p o .unchanged)) fs
  | replacing {text : Text} {o : Path} (h : declarationAt fs p = .ok text) (ho : outputPath p settings = .ok o)
      (hd : dryRun = false) (hc : hasContent fs o text = .ok false) :
      Handled settings dryRun strike fs p
        ((afterWrite o (Replace.run fs o text strike).result).map fun _ => result p o .written)
        (Replace.run fs o text strike).fs

/-- **A descriptor is handled** in one of these ways, and nothing else is done to the file system. -/
theorem processFile_handled (settings : Settings) (dryRun : Bool) (strike : Option Replace.Strike) (p : Path)
    (s : Scene) : Handled settings dryRun strike s.fs p ((processFile settings dryRun strike p).run s).1
      ((processFile settings dryRun strike p).run s).2.fs := by
  simp only [processFile, Running.run_bind, Running.run_tell, Running.run_get, Running.run_lift]
  cases h : declarationAt s.fs p with
  | error t => exact .undeclared h
  | ok text =>
    simp only [Except.mapError]
    cases ho : outputPath p settings with
    | error fault => exact .unnamed h ho
    | ok o =>
      simp only [pure_bind]
      cases hd : dryRun with
      | true => exact .planned h ho rfl
      | false =>
        simp only [Bool.false_eq_true, if_false, Running.run_bind, Running.run_get]
        cases hc : hasContent s.fs o text with
        | error c => exact .unread h ho rfl hc
        | ok same =>
          cases same with
          | true => exact .unchanged h ho rfl hc
          | false =>
            have replacing : Handled settings false strike s.fs p _ _ := .replacing h ho rfl hc
            simp only [Running.run_bind, write_run, Running.run_tell]
            cases hw : afterWrite o (Replace.run s.fs o text strike).result with
            | ok => rw [hw] at replacing; exact replacing
            | error e => rw [hw] at replacing; exact replacing

theorem write_undisturbed (p : Path) (text : Text) (s : Scene) :
    (write none p text).run s = (afterWrite p ((s.fs.replace p text).2.mapError .crash),
      { s with fs := (s.fs.replace p text).1 }) := by
  rw [write_run, Replace.run_none]

/-- **A descriptor is processed** in one of these ways if nothing is disturbed. -/
theorem processFile_processed (settings : Settings) (dryRun : Bool) (p : Path) (s : Scene) :
    ∃ r, ((processFile settings dryRun none p).run s).1 = r.mapError Ending.trouble ∧
      Processed settings dryRun s.fs p r ((processFile settings dryRun none p).run s).2.fs := by
  have hhandled := processFile_handled settings dryRun none p s
  generalize (processFile settings dryRun none p).run s = after at hhandled
  obtain ⟨x, s'⟩ := after
  dsimp only at hhandled ⊢
  generalize s'.fs = fs' at hhandled
  cases hhandled with
  | undeclared h => exact ⟨.error _, rfl, .undeclared h⟩
  | unnamed h ho => exact ⟨.error _, rfl, .unnamed h ho⟩
  | planned h ho hd => exact ⟨.ok _, rfl, .planned h ho hd⟩
  | unread h ho hd hc => exact ⟨.error _, rfl, .unread h ho hd hc⟩
  | unchanged h ho hd hc => exact ⟨.ok _, rfl, .unchanged h ho hd hc⟩
  | @replacing text o h ho hd hc =>
    rw [Replace.run_none]
    cases hw : (s.fs.replace o text).2 with
    | ok => exact ⟨.ok _, rfl, .written h ho hd hc hw⟩
    | error c =>
      cases c with
      | os e => exact ⟨.error _, rfl, .refused h ho hd hc hw⟩
      | _ => exact ⟨.error _, rfl, .unwritten h ho hd hc hw (by simp)⟩

/-- and only in one of them -/
theorem Processed.run {s : Scene} {r : Except Trouble FileResult} (h : Processed settings dryRun s.fs p r fs') :
    ((processFile settings dryRun none p).run s).1 = r.mapError Ending.trouble ∧
      ((processFile settings dryRun none p).run s).2.fs = fs' := by
  simp only [processFile, Running.run_bind, Running.run_tell, Running.run_get, Running.run_lift]
  cases h with
  | undeclared h => rw [h]; exact ⟨rfl, rfl⟩
  | unnamed h ho => rw [h]; simp only [ho, Except.mapError]; exact ⟨rfl, rfl⟩
  | planned h ho hd => rw [h, hd]; simp only [ho, Except.mapError]; exact ⟨rfl, rfl⟩
  | unread h ho hd hc =>
    rw [h, hd]
    simp only [ho, Except.mapError, pure_bind, Bool.false_eq_true, if_false, Running.run_bind, Running.run_get, hc]
    exact ⟨rfl, rfl⟩
  | unchanged h ho hd hc =>
    rw [h, hd]
    simp only [ho, Except.mapError, pure_bind, Bool.false_eq_true, if_false, Running.run_bind, Running.run_get, hc]
    exact ⟨rfl, rfl⟩
  | written h ho hd hc hw =>
    rw [h, hd]
    simp only [ho, Except.mapError, pure_bind, Bool.false_eq_true, if_false, Running.run_bind, Running.run_get, hc,
      write_undisturbed, hw]
    exact ⟨rfl, rfl⟩
  | refused h ho hd hc hw =>
    rw [h, hd]
    simp only [ho, Except.mapError, pure_bind, Bool.false_eq_true, if_false, Running.run_bind, Running.run_get, hc,
      write_undisturbed, hw]
    exact ⟨rfl, rfl⟩
  | @unwritten _ _ c h ho hd hc hw hos =>
    rw [h, hd]
    simp only [ho, Except.mapError, pure_bind, Bool.false_eq_true, if_false, Running.run_bind, Running.run_get, hc,
      write_undisturbed, hw]
    cases c with
    | os e => exact absurd rfl (hos e)
    | _ => exact ⟨rfl, rfl⟩

theorem mapError_trouble_injective {α : Type} :
    Function.Injective (Except.mapError Ending.trouble : Except Trouble α → Except Ending α) := by
  rintro (t | a) (u | b) h <;> simp_all [Except.mapError]

theorem Processed.unique {r r' : Except Trouble FileResult} {fs₁ fs₂ : FileSystem}
    (h : Processed settings dryRun fs p r fs₁) (h' : Processed settings dryRun fs p r' fs₂) : r = r' ∧ fs₁ = fs₂ := by
  obtain ⟨h1, h2⟩ := Processed.run (s := ⟨fs, []⟩) h
  obtain ⟨h1', h2'⟩ := Processed.run (s := ⟨fs, []⟩) h'
  exact ⟨mapError_trouble_injective (h1.symm.trans h1'), h2.symm.trans h2'⟩

/-! ## Turns -/

/-- how the turn of a descriptor ends: with its result, or with the run -/
inductive Turn (settings : Settings) (dryRun : Bool) (fs : FileSystem) (p : Path) :
    Except Ending FileResult → FileSystem → Prop
  | done {r : FileResult} {fs' : FileSystem} (h : Processed settings dryRun fs p (.ok r) fs') :
      Turn settings dryRun fs p (.ok r) fs'
  | skipped {f : Failure} {fs' : FileSystem} (hf : settings.failFast = false)
      (h : Processed settings dryRun fs p (.error (.failure f)) fs') :
      Turn settings dryRun fs p (.ok (failedResult p f)) fs'
  | stopped {f : Failure} {fs' : FileSystem} (hf : settings.failFast = true)
      (h : Processed settings dryRun fs p (.error (.failure f)) fs') :
      Turn settings dryRun fs p (.error (.trouble (.failure f))) fs'
  | crashed {c : Crash} {fs' : FileSystem} (h : Processed settings dryRun fs p (.error (.crash c)) fs') :
      Turn settings dryRun fs p (.error (.trouble (.crash c))) fs'

theorem Turn.unique {x y : Except Ending FileResult} {fs₁ fs₂ : FileSystem} (h : Turn settings dryRun fs p x fs₁)
    (h' : Turn settings dryRun fs p y fs₂) : x = y ∧ fs₁ = fs₂ := by
  cases h with
  | done h => cases h' <;> rename_i h' <;> obtain ⟨hr, rfl⟩ := h.unique h' <;> simp_all
  | skipped hf h => cases h' <;> rename_i h' <;> obtain ⟨hr, rfl⟩ := h.unique h' <;> simp_all
  | stopped hf h => cases h' <;> rename_i h' <;> obtain ⟨hr, rfl⟩ := h.unique h' <;> simp_all
  | crashed h => cases h' <;> rename_i h' <;> obtain ⟨hr, rfl⟩ := h.unique h' <;> simp_all

theorem Turn.source {r : FileResult} (h : Turn settings dryRun fs p (.ok r) fs') : r.source = p.toText := by
  cases h with
  | done h => cases h <;> rfl
  | skipped => rfl

/-- **A failure is recorded** unless it ends the run; a crash always ends it. -/
theorem attempt_turn (settings : Settings) (dryRun : Bool) (p : Path) (s : Scene) :
    Turn settings dryRun s.fs p ((attempt settings dryRun p).run s).1 ((attempt settings dryRun p).run s).2.fs := by
  obtain ⟨r, hr, h⟩ := processFile_processed settings dryRun p s
  rw [attempt, Running.run_tryCatch]
  generalize (processFile settings dryRun none p).run s = out at hr h
  obtain ⟨x, s'⟩ := out
  obtain rfl : x = r.mapError Ending.trouble := hr
  cases r with
  | ok r => exact .done h
  | error t =>
    cases t with
    | crash c => exact .crashed h
    | failure f =>
      simp only [Except.mapError]
      cases hf : settings.failFast with
      | true => exact .stopped hf h
      | false => exact .skipped hf h

/-! ## Runs -/

/-- the results of descriptors that have had their turns one after the other, and what the file system is then -/
inductive Trail (settings : Settings) (dryRun : Bool) :
    FileSystem → List Path → List FileResult → FileSystem → Prop
  | nil (fs : FileSystem) : Trail settings dryRun fs [] [] fs
  | cons {fs mid fs' : FileSystem} {p : Path} {r : FileResult} {ps : List Path} {rs : List FileResult}
      (h : Turn settings dryRun fs p (.ok r) mid) (t : Trail settings dryRun mid ps rs fs') :
      Trail settings dryRun fs (p :: ps) (r :: rs) fs'

theorem Trail.unique {ps : List Path} {rs rs' : List FileResult} {fs₁ fs₂ : FileSystem}
    (h : Trail settings dryRun fs ps rs fs₁) (h' : Trail settings dryRun fs ps rs' fs₂) : rs = rs' ∧ fs₁ = fs₂ := by
  induction h generalizing rs' with
  | nil => cases h'; exact ⟨rfl, rfl⟩
  | cons ht _ ih =>
    cases h' with
    | cons ht' t' =>
      obtain ⟨hr, rfl⟩ := ht.unique ht'
      obtain ⟨rfl, rfl⟩ := ih t'
      exact ⟨by rw [Except.ok.inj hr], rfl⟩

theorem Trail.sources {ps : List Path} {rs : List FileResult} (h : Trail settings dryRun fs ps rs fs') :
    rs.map FileResult.source = ps.map Path.toText := by
  induction h with
  | nil => rfl
  | cons ht _ ih => rw [List.map_cons, List.map_cons, ht.source, ih]

/-- a trail through descriptors is one through the first of them and one through the others -/
theorem Trail.split {ps qs : List Path} {rs : List FileResult} (h : Trail settings dryRun fs (ps ++ qs) rs fs') :
    ∃ rs₁ rs₂ mid, rs = rs₁ ++ rs₂ ∧ Trail settings dryRun fs ps rs₁ mid ∧ Trail settings dryRun mid qs rs₂ fs' := by
  induction ps generalizing fs rs with
  | nil => exact ⟨[], rs, fs, rfl, .nil fs, h⟩
  | cons p ps ih =>
    cases h with
    | cons ht t =>
      obtain ⟨rs₁, rs₂, mid, rfl, h1, h2⟩ := ih t
      exact ⟨_ :: rs₁, rs₂, mid, rfl, .cons ht h1, h2⟩

/-- a trail stops at each of its descriptors -/
theorem Trail.turn_of_mem {ps : List Path} {rs : List FileResult} (h : Trail settings dryRun fs ps rs fs')
    {r : FileResult} (hpr : (p, r) ∈ ps.zip rs) :
    ∃ before after rs₁ rs₂ cur mid, ps = before ++ p :: after ∧ Trail settings dryRun fs before rs₁ cur ∧
      Turn settings dryRun cur p (.ok r) mid ∧ Trail settings dryRun mid after rs₂ fs' := by
  induction h with
  | nil => cases hpr
  | cons ht t ih =>
    rcases List.mem_cons.1 hpr with h | h
    · cases h
      exact ⟨[], _, [], _, _, _, rfl, .nil _, ht, t⟩
    · obtain ⟨before, after, rs₁, rs₂, cur, mid, rfl, h1, h2, h3⟩ := ih h
      exact ⟨_ :: before, after, _ :: rs₁, rs₂, cur, mid, rfl, .cons ht h1, h2, h3⟩

theorem Trail.exists_mem {ps : List Path} {rs : List FileResult} (h : Trail settings dryRun fs ps rs fs')
    (hp : p ∈ ps) : ∃ r, (p, r) ∈ ps.zip rs := by
  induction h with
  | nil => cases hp
  | cons ht t ih =>
    rcases List.mem_cons.1 hp with rfl | hp
    · exact ⟨_, List.mem_cons_self⟩
    · obtain ⟨r, hr⟩ := ih hp
      exact ⟨r, List.mem_cons_of_mem _ hr⟩

/-- how a run goes through descriptors: to the end, or until an interrupt or a turn ends it -/
inductive Course (settings : Settings) (dryRun : Bool) (interrupt : Option Nat) (fs : FileSystem)
    (paths : List Path) : Except Ending (List FileResult) → FileSystem → Prop
  | finished {rs : List FileResult} {fs' : FileSystem} (h : Trail settings dryRun fs paths rs fs') :
      Course settings dryRun interrupt fs paths (.ok rs) fs'
  | interrupted {done rest : List Path} {rs : List FileResult} {fs' : FileSystem} (hp : paths = done ++ rest)
      (hi : interrupt = some (done.length + 1)) (h : Trail settings dryRun fs done rs fs') :
      Course settings dryRun interrupt fs paths (.error .interrupt) fs'
  | ended {done rest : List Path} {p : Path} {rs : List FileResult} {mid fs' : FileSystem} {e : Ending}
      (hp : paths = done ++ p :: rest) (h : Trail settings dryRun fs done rs mid)
      (ht : Turn settings dryRun mid p (.error e) fs') : Course settings dryRun interrupt fs paths (.error e) fs'

/-- an interrupt that does not come before the first descriptor comes one earlier in the others -/
theorem interrupt_of_map {interrupt : Option Nat} {n : Nat} (h1 : interrupt ≠ some 1)
    (h : interrupt.map (· - 1) = some (n + 1)) : interrupt = some (n + 2) := by
  obtain ⟨k, rfl, hk⟩ := Option.map_eq_some_iff.1 h
  have : k ≠ 1 := fun h => h1 (by rw [h])
  rw [show k = n + 2 by omega]

/-- **A run goes through its descriptors** turn after turn. -/
theorem processAll_course (settings : Settings) (dryRun : Bool) (interrupt : Option Nat) (paths : List Path)
    (s : Scene) : Course settings dryRun interrupt s.fs paths ((processAll settings dryRun interrupt paths).run s).1
      ((processAll settings dryRun interrupt paths).run s).2.fs := by
  induction paths generalizing interrupt s with
  | nil => exact .finished (.nil _)
  | cons p rest ih =>
    rw [processAll]
    split_ifs with hi
    · exact .interrupted (List.nil_append _).symm hi (.nil _)
    · have ht := attempt_turn settings dryRun p s
      simp only [Running.run_bind]
      generalize (attempt settings dryRun p).run s = out at ht ⊢
      obtain ⟨r, s1⟩ := out
      cases r with
      | error e => exact .ended (List.nil_append _).symm (.nil _) ht
      | ok r =>
        have hrest := ih (interrupt.map (· - 1)) s1
        simp only [Running.run_pure]
        generalize (processAll settings dryRun (interrupt.map (· - 1)) rest).run s1 = out at hrest ⊢
        obtain ⟨rs, s2⟩ := out
        cases hrest with
        | finished h => exact .finished (.cons ht h)
        | interrupted hp hn h =>
          have hi := interrupt_of_map hi hn
          exact .interrupted (by rw [hp, List.cons_append]) (by rw [hi, List.length_cons]) (.cons ht h)
        | ended hp h hte => exact .ended (by rw [hp, List.cons_append]) (.cons ht h) hte

/-- a run through descriptors goes through the first of them and then through the others -/
theorem processAll_append (interrupt : Option Nat) (done rest : List Path) (s : Scene) :
    (processAll settings dryRun interrupt (done ++ rest)).run s =
      match (processAll settings dryRun interrupt done).run s with
      | (.error e, s') => (.error e, s')
      | (.ok rs, s') =>
        match (processAll settings dryRun (interrupt.map (· - done.length)) rest).run s' with
        | (.error e, s'') => (.error e, s'')
        | (.ok rs', s'') => (.ok (rs ++ rs'), s'') := by
  induction done generalizing interrupt s with
  | nil =>
    have hmap : interrupt.map (fun n => n - ([] : List Path).length) = interrupt := by cases interrupt <;> rfl
    simp only [List.nil_append, processAll, Running.run_pure, hmap]
    generalize (processAll settings dryRun interrupt rest).run s = out
    obtain ⟨x, s'⟩ := out
    cases x <;> rfl
  | cons p done ih =>
    have hmap : (interrupt.map (· - 1)).map (fun n => n - done.length) =
        interrupt.map fun n => n - (p :: done).length := by
      cases interrupt with
      | none => rfl
      | some n =>
        have : n - 1 - done.length = n - (done.length + 1) := by omega
        simp [this]
    rw [List.cons_append, processAll, processAll]
    split_ifs with hi
    · rfl
    · simp only [Running.run_bind]
      generalize (attempt settings dryRun p).run s = out
      obtain ⟨x, s'⟩ := out
      cases x with
      | error e => rfl
      | ok r =>
        simp only [ih, hmap]
        generalize (processAll settings dryRun (interrupt.map (· - 1)) done).run s' = out
        obtain ⟨y, s''⟩ := out
        cases y with
        | error e => rfl
        | ok rs =>
          simp only [Running.run_pure]
          generalize (processAll settings dryRun (interrupt.map fun n => n - (p :: done).length) rest).run s'' = out
          obtain ⟨z, s₃⟩ := out
          cases z <;> rfl

/-- descriptors are gone through without an interrupt exactly when each has its turn -/
theorem processAll_ok_iff {paths : List Path} {s : Scene} {rs : List FileResult} :
    ((processAll settings dryRun none paths).run s).1 = .ok rs ∧
        ((processAll settings dryRun none paths).run s).2.fs = fs' ↔
      Trail settings dryRun s.fs paths rs fs' := by
  have hc := processAll_course settings dryRun none paths s
  generalize (processAll settings dryRun none paths).run s = out at hc
  obtain ⟨x, s'⟩ := out
  constructor
  · rintro ⟨hx, rfl⟩
    obtain rfl : x = .ok rs := hx
    cases hc with
    | finished t => exact t
  · intro t
    cases hc with
    | finished t' =>
      obtain ⟨rfl, rfl⟩ := t.unique t'
      exact ⟨rfl, rfl⟩
    | interrupted _ hi => cases hi
    | ended hp t' ht =>
      rw [hp] at t
      obtain ⟨_, _, _, -, t1, t2⟩ := t.split
      obtain ⟨-, rfl⟩ := t1.unique t'
      cases t2 with
      | cons ht' => cases (ht.unique ht').1

/-- a run whose descriptors can be listed goes through them -/
theorem run_of_walk {s : Scene} {paths : List Path}
    (hw : s.fs.walkSuffix (Path.ofText settings.sourceDir) settings.descriptorSuffix = .ok paths)
    (dryRun : Bool) (interrupt : Option Nat) :
    ((run settings dryRun interrupt).run s).1 = ((processAll settings dryRun interrupt paths).run s).1.map
        (fun rs => ⟨settings.sourceDir, dryRun, rs⟩) ∧
      ((run settings dryRun interrupt).run s).2 = ((processAll settings dryRun interrupt paths).run s).2 := by
  simp only [run, Running.run_bind, Running.run_get, Running.run_lift, hw, Except.mapError]
  generalize (processAll settings dryRun interrupt paths).run s = out
  obtain ⟨x, s'⟩ := out
  cases x with
  | error e => exact ⟨rfl, rfl⟩
  | ok rs => exact ⟨rfl, rfl⟩

/-- a run lists its descriptors first; nothing is done before -/
theorem run_course (settings : Settings) (dryRun : Bool) (interrupt : Option Nat) (s : Scene) :
    (∃ t, s.fs.walkSuffix (Path.ofText settings.sourceDir) settings.descriptorSuffix = .error t ∧
      (run settings dryRun interrupt).run s = (.error (.trouble t), s)) ∨
    ∃ paths r, s.fs.walkSuffix (Path.ofText settings.sourceDir) settings.descriptorSuffix = .ok paths ∧
      Course settings dryRun interrupt s.fs paths r ((run settings dryRun interrupt).run s).2.fs ∧
      ((run settings dryRun interrupt).run s).1 = r.map fun rs => ⟨settings.sourceDir, dryRun, rs⟩ := by
  cases hw : s.fs.walkSuffix (Path.ofText settings.sourceDir) settings.descriptorSuffix with
  | error t =>
    refine Or.inl ⟨t, rfl, ?_⟩
    simp only [run, Running.run_bind, Running.run_get, Running.run_lift, hw]
    rfl
  | ok paths =>
    obtain ⟨hx, hs⟩ := run_of_walk hw dryRun interrupt
    refine Or.inr ⟨paths, _, rfl, ?_, hx⟩
    rw [hs]
    exact processAll_course settings dryRun interrupt paths s

/-- a run gives a report exactly when its descriptors can be listed and each has its turn -/
theorem run_ok_iff {s : Scene} {report : Report} :
    ((run settings dryRun none).run s).1 = .ok report ∧ ((run settings dryRun none).run s).2.fs = fs' ↔
      ∃ paths rs, s.fs.walkSuffix (Path.ofText settings.sourceDir) settings.descriptorSuffix = .ok paths ∧
        Trail settings dryRun s.fs paths rs fs' ∧ report = ⟨settings.sourceDir, dryRun, rs⟩ := by
  constructor
  · rintro ⟨h, rfl⟩
    rcases run_course settings dryRun none s with ⟨t, -, he⟩ | ⟨paths, x, hw, -, -⟩
    · rw [he] at h
      cases h
    · obtain ⟨hx, hs⟩ := run_of_walk hw dryRun none
      rw [h] at hx
      obtain ⟨rs, hrs, rfl⟩ := Except.exists_of_map hx.symm
      exact ⟨paths, rs, hw, processAll_ok_iff.1 ⟨hrs, by rw [hs]⟩, rfl⟩
  · rintro ⟨paths, rs, hw, t, rfl⟩
    obtain ⟨hx, hs⟩ := run_of_walk hw dryRun none
    obtain ⟨hrs, hfs⟩ := processAll_ok_iff.2 t
    rw [hx, hs, hrs, hfs]
    exact ⟨rfl, rfl⟩

/-! ## Early ends -/

/-- an interrupt that does not come before any of so many descriptors -/
def IsLate (interrupt : Option Nat) (count : Nat) : Prop := ∀ n, interrupt = some n → n = 0 ∨ count < n

/-- an interrupt behind the last descriptor is none -/
theorem processAll_late {interrupt : Option Nat} {paths : List Path} (h : IsLate interrupt paths.length) :
    processAll settings dryRun interrupt paths = processAll settings dryRun none paths := by
  induction paths generalizing interrupt with
  | nil => rfl
  | cons p paths ih =>
    have hfirst : interrupt ≠ some 1 := by
      intro hi
      have := h 1 hi
      simp at this
    have hrest : IsLate (interrupt.map (· - 1)) paths.length := by
      intro n hn
      obtain ⟨m, rfl, rfl⟩ := Option.map_eq_some_iff.1 hn
      have := h m rfl
      simp only [List.length_cons] at this
      omega
    rw [processAll, processAll, if_neg hfirst, if_neg (by simp), ih hrest]
    rfl

/-- an interrupt behind the last descriptor, if there is a last one, has no effect on a run -/
theorem run_of_late {interrupt : Option Nat} {s : Scene} (h : ∀ paths,
    s.fs.walkSuffix (Path.ofText settings.sourceDir) settings.descriptorSuffix = .ok paths →
      IsLate interrupt paths.length) :
    (run settings dryRun interrupt).run s = (run settings dryRun none).run s := by
  cases hw : s.fs.walkSuffix (Path.ofText settings.sourceDir) settings.descriptorSuffix with
  | error t => simp only [run, Running.run_bind, Running.run_get, Running.run_lift, hw, Except.mapError]
  | ok paths =>
    obtain ⟨hx, hs⟩ := run_of_walk hw dryRun interrupt
    obtain ⟨hx', hs'⟩ := run_of_walk hw dryRun none
    rw [processAll_late (h paths hw)] at hx hs
    exact Prod.ext (hx.trans hx'.symm) (hs.trans hs'.symm)

/-- where descriptors have had their turns before any interrupt, the run ends as it ends with the others -/
theorem processAll_after {interrupt : Option Nat} {done : List Path} {rs : List FileResult} {mid : FileSystem}
    {s : Scene} (hi : IsLate interrupt done.length) (t : Trail settings dryRun s.fs done rs mid) (rest : List Path) :
    ∃ s' : Scene, s'.fs = mid ∧ ∀ e s'',
      (processAll settings dryRun (interrupt.map (· - done.length)) rest).run s' = (.error e, s'') →
      (processAll settings dryRun interrupt (done ++ rest)).run s = (.error e, s'') := by
  obtain ⟨hok, hmid⟩ := processAll_ok_iff.2 t
  refine ⟨((processAll settings dryRun none done).run s).2, hmid, ?_⟩
  intro e s'' hrest
  rw [processAll_append, processAll_late hi]
  generalize (processAll settings dryRun none done).run s = out at hok hrest ⊢
  obtain ⟨x, s'⟩ := out
  obtain rfl : x = .ok rs := hok
  simp only [hrest]

/-- what ends the turn of a descriptor ends the run, after the turns of those before it -/
theorem processAll_ended {interrupt : Option Nat} {done : List Path} {rs : List FileResult} {mid : FileSystem}
    {e : Ending} {s : Scene} (hi : IsLate interrupt (done.length + 1)) (t : Trail settings dryRun s.fs done rs mid)
    (h : Turn settings dryRun mid p (.error e) fs') (rest : List Path) :
    ((processAll settings dryRun interrupt (done ++ p :: rest)).run s).1 = .error e ∧
      ((processAll settings dryRun interrupt (done ++ p :: rest)).run s).2.fs = fs' := by
  have hdone : IsLate interrupt done.length := fun n hn => (hi n hn).imp id fun h => by omega
  have hnow : interrupt.map (fun n => n - done.length) ≠ some 1 := by
    intro hn
    obtain ⟨m, hm, hm1⟩ := Option.map_eq_some_iff.1 hn
    have := hi m hm
    omega
  obtain ⟨s', rfl, hafter⟩ := processAll_after hdone t (p :: rest)
  have ht := attempt_turn settings dryRun p s'
  obtain ⟨hx, hfs⟩ := ht.unique h
  rw [hafter e ((attempt settings dryRun p).run s').2 ?_]
  · exact ⟨rfl, hfs⟩
  · rw [processAll, if_neg hnow, Running.run_bind]
    generalize (attempt settings dryRun p).run s' = out at hx ⊢
    obtain ⟨y, s''⟩ := out
    obtain rfl : y = .error e := hx
    rfl

/-- an interrupt ends the run, after the turns of the descriptors before it -/
theorem processAll_interrupted {done : List Path} {rs : List FileResult} {mid : FileSystem} {s : Scene}
    (t : Trail settings dryRun s.fs done rs mid) (p : Path) (rest : List Path) :
    ((processAll settings dryRun (some (done.length + 1)) (done ++ p :: rest)).run s).1 = .error .interrupt ∧
      ((processAll settings dryRun (some (done.length + 1)) (done ++ p :: rest)).run s).2.fs = mid := by
  have hdone : IsLate (some (done.length + 1)) done.length := by
    intro n hn
    obtain rfl := Option.some.inj hn
    exact Or.inr (Nat.lt_succ_self _)
  obtain ⟨s', rfl, hafter⟩ := processAll_after hdone t (p :: rest)
  rw [hafter .interrupt s' ?_]
  · exact ⟨rfl, rfl⟩
  · simp only [Option.map_some, Nat.add_sub_cancel_left, processAll, if_true]
    rfl

end Generate
end Typings
