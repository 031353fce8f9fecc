/-
Verbosity: what is told, and how, has no effect on what is done.

The words that say how much is told, and where nobody watches the first stream also all that turns colour off, reach
nothing but the look of the second stream.
- `General.rules_alike`, `IsVolume.isIdle`: such words keep what counts of the general options.
- `ofWords_alike`: command lines that differ in such words ask for the same.
- `Console.of_alike`: consoles of such requests show the same data.
- `resolve_congr`, `CrashLog.write_congr`: the variables that turn colour off have no effect on settings and logs.
- `run_alike`: two runs that differ in all this leave the same data, the same exit code and the same files.
-/
import Typings.Program
import Typings.Proofs.CommandLine.Reading

namespace Typings

/-! ## Options -/

/-- options whose consoles show the same data: the same format, which nobody who watches no terminal can ask to be a
drawn one, and on a terminal the same colour -/
structure Console.Options.SameView (watched : Bool) (o o' : Console.Options) : Prop where
  format : o'.format = o.format
  plain : watched = false → o.format ≠ some .rich
  colour : watched = true → o'.noColour = o.noColour

namespace CommandLine

open Console.Options

variable {watched : Bool}

/-- the same for general options: they also ask the same question -/
structure General.SameView (watched : Bool) (g g' : General) : Prop where
  inquiry : g'.inquiry = g.inquiry
  console : g.console.SameView watched g'.console

theorem General.SameView.symm {g g' : General} (h : g.SameView watched g') : g'.SameView watched g :=
  ⟨h.inquiry.symm, h.console.format.symm, fun hw => h.console.format ▸ h.console.plain hw,
    fun hw => (h.console.colour hw).symm⟩

theorem General.SameView.trans {g g' g'' : General} (h : g.SameView watched g') (h' : g'.SameView watched g'') :
    g.SameView watched g'' :=
  ⟨h'.inquiry.trans h.inquiry, h'.console.format.trans h.console.format, h.console.plain,
    fun hw => (h'.console.colour hw).trans (h.console.colour hw)⟩

/-- **Each general option** keeps what is the same. -/
theorem General.rules_alike : Rule.AreSwitches (General.SameView watched) General.rules := by
  have hask : ∀ i (g g' : General), g.SameView watched g' → (General.ask i g).SameView watched (General.ask i g') :=
    fun i g g' h => ⟨by simp only [General.ask, h.inquiry], h.console⟩
  simp only [Rule.AreSwitches, General.rules, List.forall_mem_cons]
  refine ⟨⟨_, _, _, rfl, hask _⟩, ⟨_, _, _, rfl, hask _⟩, ⟨_, _, _, rfl, ?_⟩, ⟨_, _, _, rfl, ?_⟩,
    ⟨_, _, _, rfl, ?_⟩, ⟨_, _, _, rfl, ?_⟩, by simp⟩
  · intro g g' h
    exact ⟨h.inquiry, rfl, fun _ => by simp, h.console.colour⟩
  · intro g g' h
    exact ⟨h.inquiry, h.console.format, h.console.plain, fun _ => rfl⟩
  · intro g g' h
    exact ⟨h.inquiry, h.console.format, h.console.plain, h.console.colour⟩
  · intro g g' h
    exact ⟨h.inquiry, h.console.format, h.console.plain, h.console.colour⟩

/-! ## Words -/

/-- the words that say how much is told; where nobody watches, also the one that turns colour off -/
inductive IsVolume (watched : Bool) : Text → Prop
  | quiet : IsVolume watched "--quiet"
  | verbose : IsVolume watched "--verbose"
  | letters {c : CodePoint} {r : Text} (h : ∀ d ∈ c :: r, d = 'q' ∨ d = 'v') : IsVolume watched ('-' :: c :: r)
  | colour (h : watched = false) : IsVolume watched "--no-color"

/-- letters that say how much is told -/
theorem letters_volume {t : Text} (h : ∀ d ∈ t, d = 'q' ∨ d = 'v') {g : General} (hg : g.SameView watched g) :
    ∃ g', Rule.letters General.rules g t = .ok g' ∧ g.SameView watched g' := by
  induction t generalizing g with
  | nil => exact ⟨g, rfl, hg⟩
  | cons d t ih =>
    obtain ⟨hd, ht⟩ := List.forall_mem_cons.1 h
    obtain ⟨set, hset, hone⟩ : ∃ set, Rule.letter? General.rules d = some set ∧ g.SameView watched (set g) := by
      rcases hd with rfl | rfl <;> exact ⟨_, rfl, rfl, rfl, hg.console.plain, fun _ => rfl⟩
    obtain ⟨g', hread, hmore⟩ := ih ht (hone.symm.trans hone)
    exact ⟨g', by simp only [Rule.letters, hset, hread], hone.trans hmore⟩

/-- **These words** are options that keep what counts. -/
theorem IsVolume.isIdle {word : Text} (h : IsVolume watched word) :
    Rule.IsIdle (General.SameView watched) General.rules word := by
  cases h with
  | quiet => exact ⟨⟨by decide, by decide⟩, fun g hg => ⟨_, rfl, rfl, rfl, hg.console.plain, fun _ => rfl⟩⟩
  | verbose => exact ⟨⟨by decide, by decide⟩, fun g hg => ⟨_, rfl, rfl, rfl, hg.console.plain, fun _ => rfl⟩⟩
  | @letters c r h =>
    have hdash : c ≠ '-' := by
      rcases h c List.mem_cons_self with rfl | rfl <;> decide
    have hlong : Text.startsWith ('-' :: c :: r) "--" = false := by
      change (true && (CodePoint.ofChar '-' == c && List.isPrefixOf [] r)) = false
      rw [beq_false_of_ne hdash.symm]
      rfl
    refine ⟨⟨by simp [Rule.isOption, Text.startsWith], ?_⟩, fun g hg => ?_⟩
    · intro heq
      rw [heq] at hlong
      exact absurd hlong (by decide)
    · rw [Rule.readOption, hlong]
      exact letters_volume h hg
  | colour hw =>
    refine ⟨⟨by decide, by decide⟩, fun g hg => ⟨_, rfl, rfl, rfl, hg.console.plain, fun h => ?_⟩⟩
    rw [hw] at h
    cases h

/-- command lines that differ only in such words among the general options -/
abbrev SameLine (watched : Bool) : List Text → List Text → Prop := Rule.Ignoring (IsVolume watched)

/-- requests for the same: both command lines are misused, or they ask the same question or for the same command -/
inductive SameRequest (watched : Bool) : Except Misuse Request → Except Misuse Request → Prop
  | misuse (m m' : Misuse) : SameRequest watched (.error m) (.error m')
  | inquiry (i : Inquiry) : SameRequest watched (.ok (.inquiry i)) (.ok (.inquiry i))
  | generate {o o' : Console.Options} (h : o.SameView watched o') (overrides : Settings.Overrides) (dryRun : Bool) :
      SameRequest watched (.ok (.generate o overrides dryRun)) (.ok (.generate o' overrides dryRun))
  | render {o o' : Console.Options} (h : o.SameView watched o') (path : Text) :
      SameRequest watched (.ok (.render o path)) (.ok (.render o' path))

/-- the words behind the general options ask for the same -/
theorem SameRequest.of_alike {α : Type} {x y : Except Misuse α} {f g : α → Except Misuse Request}
    {R : α → α → Prop} (h : Alike R x y) (hfg : ∀ a b, R a b → SameRequest watched (f a) (g b)) :
    SameRequest watched (x >>= f) (y >>= g) := by
  cases h with
  | error m => exact .misuse m m
  | ok h => exact hfg _ _ h

theorem SameRequest.refl_of_same {α : Type} (x : Except Misuse α) {f g : α → Except Misuse Request}
    (hfg : ∀ a, SameRequest watched (f a) (g a)) : SameRequest watched (x >>= f) (x >>= g) := by
  cases x with
  | error m => exact .misuse m m
  | ok a => exact hfg a

variable {o o' : Console.Options}

theorem generateOf_alike (h : o.SameView watched o') (words : List Text) :
    SameRequest watched (Request.generateOf o words) (Request.generateOf o' words) := by
  refine SameRequest.refl_of_same _ fun ⟨p, arguments⟩ => ?_
  dsimp only
  split_ifs
  · exact .inquiry _
  · match arguments with
    | [] => exact .generate h _ _
    | [_] => exact .generate h _ _
    | _ :: _ :: _ => exact .misuse _ _

theorem renderOf_alike (h : o.SameView watched o') (words : List Text) :
    SameRequest watched (Request.renderOf o words) (Request.renderOf o' words) := by
  refine SameRequest.refl_of_same _ fun ⟨p, arguments⟩ => ?_
  dsimp only
  split_ifs
  · exact .inquiry _
  · match arguments with
    | [] => exact .misuse _ _
    | [_] => exact .render h _
    | _ :: _ :: _ => exact .misuse _ _

theorem ofUnknown_alike (name : Text) (words : List Text) :
    SameRequest watched (Request.ofUnknown name words) (Request.ofUnknown name words) := by
  refine SameRequest.refl_of_same _ fun ⟨g, rest⟩ => ?_
  dsimp only
  cases g.inquiry with
  | none => exact .misuse _ _
  | some i => exact .inquiry i

/-- what is asked for by options that have been read and the words behind them -/
def requestOf (reading : General × List Text) : Except Misuse Request :=
  match reading.1.inquiry, reading.2 with
  | some i, _ => .ok (.inquiry i)
  | none, [] => .error .noCommand
  | none, name :: more =>
    if name = ("generate" : Text) then Request.generateOf reading.1.console more
    else if name = ("render" : Text) then Request.renderOf reading.1.console more
    else Request.ofUnknown name more

theorem ofWords_eq (words : List Text) : Request.ofWords words =
    if words.isEmpty then .error .noArguments else Rule.read General.rules false {} words >>= requestOf := by
  cases words with
  | nil => rfl
  | cons word words =>
    refine bind_congr fun ⟨g, rest⟩ => ?_
    rfl

theorem requestOf_alike {g g' : General} (h : g.SameView watched g') (rest : List Text) :
    SameRequest watched (requestOf (g, rest)) (requestOf (g', rest)) := by
  unfold requestOf
  rw [h.inquiry]
  cases g.inquiry with
  | some i => exact .inquiry i
  | none =>
    cases rest with
    | nil => exact .misuse _ _
    | cons name more =>
      dsimp only
      split_ifs
      · exact generateOf_alike h.console more
      · exact renderOf_alike h.console more
      · exact ofUnknown_alike name more

/-- requests for the same stay so where some are refused that were misused anyway -/
theorem SameRequest.refused {x x' : Except Misuse Request} (h : SameRequest watched x x') {b b' : Bool} (m : Misuse)
    (hb : b = true → ∃ n, x = .error n) (hb' : b' = true → ∃ n, x' = .error n) :
    SameRequest watched (if b then .error m else x) (if b' then .error m else x') := by
  cases b with
  | true =>
    obtain ⟨n, rfl⟩ := hb rfl
    cases h
    cases b' <;> exact .misuse _ _
  | false =>
    cases b' with
    | true =>
      obtain ⟨n, rfl⟩ := hb' rfl
      cases h
      exact .misuse _ _
    | false => exact h

/-- **Command lines that differ in such words** ask for the same. -/
theorem ofWords_alike {words words' : List Text} (h : SameLine watched words words') :
    SameRequest watched (Request.ofWords words) (Request.ofWords words') := by
  have hempty : ∀ ws : List Text, ws.isEmpty = true →
      ∃ n, Rule.read General.rules false {} ws >>= requestOf = .error n := by
    intro ws hws
    rw [List.isEmpty_iff.1 hws]
    exact ⟨_, rfl⟩
  have hread := h.read_alike General.rules_alike General.SameView.symm General.SameView.trans
    (fun _ hw => hw.isIdle) (⟨rfl, rfl, fun _ => by simp, fun _ => rfl⟩ : General.SameView watched {} {})
  rw [ofWords_eq, ofWords_eq]
  refine SameRequest.refused (SameRequest.of_alike hread ?_) _ (hempty words) (hempty words')
  rintro ⟨g, rest⟩ ⟨g', rest'⟩ ⟨hg, rfl⟩
  exact requestOf_alike hg rest

end CommandLine

/-! ## The environment -/

/-- environments that differ at most, and only where nobody watches, in the variables that turn colour off -/
def SameEnvironment (watched : Bool) (env env' : Environment) : Prop :=
  env' = env ∨ watched = false ∧ ∀ name : Text, name ≠ "NO_COLOR" → name ≠ "TERM" →
    Environment.get? env' name = Environment.get? env name

variable {watched : Bool} {env env' : Environment}

theorem SameEnvironment.get? (h : SameEnvironment watched env env') {name : Text}
    (hn : name ≠ "NO_COLOR" ∧ name ≠ "TERM") : Environment.get? env' name = Environment.get? env name := by
  rcases h with rfl | ⟨-, h⟩
  · rfl
  · exact h name hn.1 hn.2

theorem Settings.resolve_congr (h : SameEnvironment watched env env') (fs : FileSystem)
    (overrides : Settings.Overrides) : resolve fs env' overrides = resolve fs env overrides := by
  have hnames : ∀ e ∈ sourceVariables, e.1 ≠ "NO_COLOR" ∧ e.1 ≠ "TERM" := by decide
  have hentries : environmentEntries env' = environmentEntries env := by
    refine List.filterMap_congr fun e he => ?_
    dsimp only
    rw [h.get? (hnames e he)]
  simp only [resolve, hentries]

theorem CrashLog.write_congr (h : SameEnvironment watched env env') (fs : FileSystem) (system moment : Text)
    (e : Crash) : write fs system env' moment e = write fs system env moment e := by
  have hhome : Environment.get? env' "HOME" = Environment.get? env "HOME" := h.get? (by decide)
  have hbase : Environment.get? env' "XDG_DATA_HOME" = Environment.get? env "XDG_DATA_HOME" := h.get? (by decide)
  simp only [write, DataDirectory.provide, DataDirectory.path, DataDirectory.home, hhome, hbase]

/-! ## Consoles -/

namespace Console

/-- consoles that show the same data -/
structure SameData (c c' : Console) : Prop where
  format : c'.format = c.format
  table : ∀ t : Table, c'.table t = c.table t

theorem dimension?_congr {name : Text} (h : Environment.get? env' name = Environment.get? env name) :
    dimension? env' name = dimension? env name := by
  simp only [dimension?, h]

/-- a drawn table depends on three parts of its console -/
theorem sameData_of_drawn {c c' : Console} (hf : c'.format = c.format) (hw : c'.tableWidth = c.tableWidth)
    (hs : c'.styling = c.styling) : SameData c c' :=
  ⟨hf, fun t => by simp only [table, hf, hw, hs]⟩

/-- and one that is not drawn on the format only -/
theorem sameData_of_plain {c c' : Console} (hf : c'.format = c.format) (hr : c.format ≠ .rich) : SameData c c' := by
  refine ⟨hf, fun t => ?_⟩
  rw [table, table, hf]
  cases hc : c.format with
  | rich => exact absurd hc hr
  | _ => rfl

/-- **Consoles** of the same requests show the same data, or cannot be made for the same reason. -/
theorem of_alike (he : SameEnvironment watched env env') {o o' : Options} (ho : o.SameView watched o') :
    Alike SameData (of env watched o) (of env' watched o') := by
  have hcolumns : dimension? env' "COLUMNS" = dimension? env "COLUMNS" := dimension?_congr (he.get? (by decide))
  have hlines : dimension? env' "LINES" = dimension? env "LINES" := dimension?_congr (he.get? (by decide))
  simp only [of, hcolumns, hlines]
  cases dimension? env "COLUMNS" with
  | error e => exact .error e
  | ok columns =>
    cases dimension? env "LINES" with
    | error e => exact .error e
    | ok lines =>
      refine .ok ?_
      cases watched with
      | true =>
        obtain rfl : env' = env := he.resolve_right (by simp)
        exact sameData_of_drawn (by simp [ho.format, ho.colour rfl]) rfl (by simp [ho.colour rfl])
      | false =>
        refine sameData_of_plain (by simp [ho.format]) ?_
        have hplain := ho.plain rfl
        cases hf : o.format with
        | none => simp
        | some f => simpa [hf] using hplain

end Console

/-! ## Runs -/

namespace Program

open CommandLine

variable {s : Surroundings} {words words' : List Text} {c c' : Console}

/-- what a run leaves, without the second stream -/
structure SameResults (o o' : Outcome) : Prop where
  out : o'.out = o.out
  exit : o'.exit = o.exit
  fs : o'.fs = o.fs

theorem data_congr (h : c.SameData c') (report : Report) : report.data c' = report.data c := by
  simp only [Report.data, h.format, h.table]

/-- a command tells the same, whatever is shown of it -/
theorem generate_alike (he : SameEnvironment s.watched s.env env') (hc : c.SameData c')
    (overrides : Settings.Overrides) (dryRun : Bool) (interrupt : Option Nat) :
    generate env' c' overrides dryRun interrupt = generate s.env c overrides dryRun interrupt := by
  simp only [generate, Settings.resolve_congr he, data_congr hc]

/-- **A command** ends alike on all consoles. -/
theorem conclude_alike (he : SameEnvironment s.watched s.env env') (command : Running (Text × Int)) :
    SameResults (conclude s c command) (conclude { s with env := env' } c' command) := by
  simp only [conclude, CrashLog.write_congr he]
  rcases command.run ⟨s.fs, []⟩ with ⟨result, scene⟩
  match result with
  | .ok (shown, code) => exact ⟨rfl, rfl, rfl⟩
  | .error (.trouble (.failure f)) => exact ⟨rfl, rfl, rfl⟩
  | .error .interrupt => exact ⟨rfl, rfl, rfl⟩
  | .error (.trouble (.crash e)) =>
    dsimp only
    rcases CrashLog.write scene.fs s.system s.env s.moment e with ⟨fs, log | log⟩
    · exact ⟨rfl, rfl, rfl⟩
    · exact ⟨rfl, rfl, rfl⟩

theorem onConsole_alike (he : SameEnvironment s.watched s.env env') {o o' : Console.Options}
    (ho : o.SameView s.watched o') {use use' : Console → Outcome}
    (h : ∀ c c', c.SameData c' → SameResults (use c) (use' c')) :
    SameResults (onConsole s o use) (onConsole { s with env := env' } o' use') := by
  have hconsole := Console.of_alike he ho
  simp only [onConsole, CrashLog.write_congr he]
  generalize Console.of s.env s.watched o = x at hconsole ⊢
  generalize Console.of env' s.watched o' = y at hconsole ⊢
  cases hconsole with
  | ok hc => exact h _ _ hc
  | error e =>
    dsimp only
    rcases CrashLog.write s.fs s.system s.env s.moment e with ⟨fs, log | log⟩
    · exact ⟨rfl, rfl, rfl⟩
    · exact ⟨rfl, rfl, rfl⟩

/-- **Verbosity has no effect on results.** Two runs on the same files whose command lines differ only in the words that
say how much is told, and where nobody watches the first stream also in those and in the variables that turn colour off,
write the same to the first stream, end with the same exit code and leave the same files. -/
theorem run_alike (s : Surroundings) (interrupt : Option Nat) (he : SameEnvironment s.watched s.env env')
    (hw : SameLine s.watched words words') :
    let o := run s interrupt words
    let o' := run { s with env := env' } interrupt words'
    o'.out = o.out ∧ o'.exit = o.exit ∧ o'.fs = o.fs := by
  suffices h : SameResults (run s interrupt words) (run { s with env := env' } interrupt words') from
    ⟨h.out, h.exit, h.fs⟩
  have hrequest := ofWords_alike hw
  have hdefault : ({} : Console.Options).SameView s.watched {} := ⟨rfl, fun _ => by simp, fun _ => rfl⟩
  unfold run
  generalize Request.ofWords words = x at hrequest ⊢
  generalize Request.ofWords words' = y at hrequest ⊢
  cases hrequest with
  | misuse m m' => exact onConsole_alike he hdefault fun _ _ _ => ⟨rfl, rfl, rfl⟩
  | inquiry i =>
    cases i with
    | version => exact ⟨rfl, rfl, rfl⟩
    | help => exact onConsole_alike he hdefault fun _ _ _ => ⟨rfl, rfl, rfl⟩
  | generate ho overrides dryRun =>
    refine onConsole_alike he ho fun c c' hc => ?_
    simp only [generate_alike he hc]
    exact conclude_alike he _
  | render ho path => exact onConsole_alike he ho fun _ _ _ => conclude_alike he _

/-- a silent run and a loud one on a terminal; and a silent run with colour and a loud one without it, where nobody
watches -/
theorem run_alike_two :
    let fs : FileSystem := ⟨[([("d" : Text)], .directory 0o755),
      (["d", "A.json"], .file (Utf8.encodeAll "\x7b\"name\":\"A\",\"methods\":[]\x7d") 0o644),
      (["d", "B.json"], .file (Utf8.encodeAll "\x7b\"name\":\"B\"\x7d") 0o644)], [], 0o022, [], .usual⟩
    let terminal : Surroundings := ⟨fs, [], "Linux", true, "20240101_000000"⟩
    let pipe : Surroundings := ⟨fs, [], "Linux", false, "20240101_000000"⟩
    let bare : Environment := [("TERM", "dumb"), ("NO_COLOR", "")]
    let quiet : List Text := ["-q", "generate", "d"]
    let verbose : List Text := ["-v", "generate", "d"]
    let silent : List Text := ["--quiet", "--json", "generate", "d"]
    let loud : List Text := ["--json", "-vv", "--no-color", "generate", "d"]
    SameEnvironment true [] [] ∧ SameLine true quiet verbose ∧
      ((run terminal none verbose).out = (run terminal none quiet).out ∧
        (run terminal none verbose).exit = (run terminal none quiet).exit ∧
        (run terminal none verbose).fs = (run terminal none quiet).fs) ∧
      (run terminal none verbose).err ≠ (run terminal none quiet).err ∧
      SameEnvironment false [] bare ∧ SameLine false silent loud ∧
      ((run { pipe with env := bare } none loud).out = (run pipe none silent).out ∧
        (run { pipe with env := bare } none loud).exit = (run pipe none silent).exit ∧
        (run { pipe with env := bare } none loud).fs = (run pipe none silent).fs) ∧
      (run { pipe with env := bare } none loud).err ≠ (run pipe none silent).err := by
  intro fs terminal pipe bare quiet verbose silent loud
  have hq : IsVolume true "-q" := @IsVolume.letters true 'q' [] (by simp)
  have hv : IsVolume true "-v" := @IsVolume.letters true 'v' [] (by simp)
  have hvv : IsVolume false "-vv" := @IsVolume.letters false 'v' ['v'] (by simp)
  have hjson : Rule.IsProper "--json" := ⟨by decide, by decide⟩
  have hbare : SameEnvironment false [] bare := by
    refine Or.inr ⟨rfl, fun name hcolour hterm => ?_⟩
    simp only [Environment.get?, bare, List.lookup_cons, List.lookup_nil, beq_false_of_ne hterm,
      beq_false_of_ne hcolour]
  have hterminal : SameLine true quiet verbose := .left hq (.right hv (.refl _))
  have hpipe : SameLine false silent loud :=
    .left .quiet (.option hjson (.right hvv (.right (.colour rfl) (.refl _))))
  exact ⟨Or.inl rfl, hterminal, run_alike terminal none (Or.inl rfl) hterminal, by decide +kernel, hbare, hpipe,
    run_alike pipe none hbare hpipe, by decide +kernel⟩

end Program
end Typings
