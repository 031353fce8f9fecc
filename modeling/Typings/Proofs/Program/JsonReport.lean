/-
Reports as JSON: the first stream holds one document, and the document the report.

- `Report.check_toValue`: a report is the report of its value.
- `Report.composed`: its value is made of texts, words and short integers, so that it is written without loss.
- `run_report`: the program writes that document, an end of line and nothing else, and the document is read back.
-/
import Typings.Proofs.Json.Octets
import Typings.Proofs.Program.Coherence
import Typings.Proofs.Shape.Acceptance

namespace Typings

open Shape Utf8

/-! ## Values of reports -/

theorem optional_ofOptionalText (o : Option Text) : optional text (Value.ofOptionalText o) = .ok o := by
  cases o <;> rfl

/-- a status is found under its word -/
theorem Status.check_word (s : Status) : Status.check (.text s.word) = .ok s := by
  cases s <;> rfl

/-- the word of a status has octets -/
theorem Status.isEncodable_word (s : Status) : isEncodable s.word = true := by
  cases s <;> rfl

theorem portable_text {t : Text} (h : isEncodable t = true) : Json.IsPortable (.text t) := ⟨.text t, by simpa using h⟩

theorem portable_ofOptionalText {o : Option Text} (h : ∀ t ∈ o.toList, isEncodable t = true) :
    Json.IsPortable (Value.ofOptionalText o) := by
  cases o with
  | none => exact ⟨.null, by simp [Value.ofOptionalText]⟩
  | some t => exact portable_text (h t (by simp))

/-- an exit code, or null for none -/
def ofOptionalInt : Option Int → Value
  | some n => .int n
  | none => .null

theorem optional_ofOptionalInt (o : Option Int) : optional Shape.int (ofOptionalInt o) = .ok o := by
  cases o <;> rfl

namespace FileResult

variable {f : FileResult}

/-- the texts of a result -/
def texts (f : FileResult) : List Text := f.source :: (f.output.toList ++ f.error.toList)

theorem toValue_eq (f : FileResult) : f.toValue = .map (Value.keyed [("source", .text f.source),
    ("output", Value.ofOptionalText f.output), ("status", .text f.status.word),
    ("error", Value.ofOptionalText f.error), ("exit_code", ofOptionalInt f.exitCode)]) := by
  obtain ⟨source, output, status, error, exitCode⟩ := f
  cases exitCode <;> rfl

theorem check_toValue (f : FileResult) : FileResult.check f.toValue = .ok f := by
  rw [toValue_eq, FileResult.check, record_eq_ok]
  refine ⟨_, rfl, ?_⟩
  simp only [Checked.seq_eq_ok, Checked.fmap_eq_ok, required_eq_ok, withDefault_found_eq_ok, found?, Value.get?_keyed]
  refine ⟨_, _, ⟨_, _, ⟨_, _, ⟨_, _, ⟨_, ⟨_, rfl, rfl⟩, rfl⟩, optional_ofOptionalText _, rfl⟩,
    ⟨_, rfl, Status.check_word _⟩, rfl⟩, optional_ofOptionalText _, rfl⟩, optional_ofOptionalInt _, rfl⟩

theorem composed (ht : ∀ t ∈ f.texts, isEncodable t = true) (hc : ∀ n, f.exitCode = some n → Json.isLong n = false) :
    Value.Composed (isEncodable · = true) Json.IsPortable f.toValue := by
  obtain ⟨hsource, houtput, herror⟩ : isEncodable f.source = true ∧ (∀ t ∈ f.output.toList, isEncodable t = true) ∧
      ∀ t ∈ f.error.toList, isEncodable t = true := by
    simpa only [texts, List.forall_mem_cons, List.forall_mem_append] using ht
  have hcode : Json.IsPortable (ofOptionalInt f.exitCode) := by
    cases hf : f.exitCode with
    | none => exact ⟨.null, by simp [ofOptionalInt]⟩
    | some n => exact ⟨.int (hc n hf), by simp [ofOptionalInt]⟩
  have hkeys : (["source", "output", "status", "error", "exit_code"] : List Text).Nodup := by decide
  rw [toValue_eq]
  refine .map (by simp only [List.forall_mem_cons]; decide) hkeys ?_
  simp only [List.forall_mem_cons, List.not_mem_nil, false_implies, implies_true, and_true]
  exact ⟨.leaf (portable_text hsource), .leaf (portable_ofOptionalText houtput),
    .leaf (portable_text f.status.isEncodable_word), .leaf (portable_ofOptionalText herror), .leaf hcode⟩

end FileResult

namespace Report

variable {report : Report}

/-- the texts of a report -/
def texts (r : Report) : List Text := r.sourceDir :: r.files.flatMap FileResult.texts

/-- **A report** is the one of its value. -/
theorem check_toValue (r : Report) : Report.check r.toValue = .ok r := by
  have hfiles : Shape.list FileResult.check (.list (r.files.map FileResult.toValue)) = .ok r.files := by
    rw [list_eq_ok]
    refine ⟨_, rfl, ?_⟩
    rw [List.forall₂_map_left_iff, List.forall₂_same]
    intro f _
    exact f.check_toValue
  rw [Report.check, record_eq_ok]
  refine ⟨_, rfl, ?_⟩
  simp only [Checked.seq_eq_ok, Checked.fmap_eq_ok, required_eq_ok, withDefault_found_eq_ok, found?]
  exact ⟨_, _, ⟨_, _, ⟨_, ⟨_, rfl, rfl⟩, rfl⟩, rfl, rfl⟩, hfiles, rfl⟩

theorem composed (ht : ∀ t ∈ report.texts, isEncodable t = true)
    (hc : ∀ f ∈ report.files, ∀ n, f.exitCode = some n → Json.isLong n = false) :
    Value.Composed (isEncodable · = true) Json.IsPortable report.toValue := by
  obtain ⟨hdir, hfiles⟩ := List.forall_mem_cons.1 ht
  have hlist : Value.Composed (isEncodable · = true) Json.IsPortable
      (.list (report.files.map FileResult.toValue)) := by
    refine .list (List.forall_mem_map.2 fun f hf => FileResult.composed (fun t htf => ?_) (hc f hf))
    exact hfiles t (List.mem_flatMap.2 ⟨f, hf, htf⟩)
  have hkeys : (["source_dir", "dry_run", "files"] : List Text).Nodup := by decide
  change Value.Composed _ _ (.map (Value.keyed [("source_dir", .text report.sourceDir),
    ("dry_run", .bool report.dryRun), ("files", .list (report.files.map FileResult.toValue))]))
  refine .map (by simp only [List.forall_mem_cons]; decide) hkeys ?_
  simp only [List.forall_mem_cons, List.not_mem_nil, false_implies, implies_true, and_true]
  exact ⟨.leaf (portable_text hdir), .leaf ⟨.bool _, by simp⟩, hlist⟩

end Report

/-! ## The first stream -/

namespace Program

open CommandLine FileSystem Generate

variable {s : Surroundings} {interrupt : Option Nat} {words : List Text} {options : Console.Options}
  {overrides : Settings.Overrides} {dryRun : Bool} {c : Console} {settings : Settings} {report : Report}

/-- the report of a run is written without loss if its texts have octets -/
theorem composed_of_run (h : ((Generate.run settings dryRun interrupt).run (opening s.fs settings)).1 = .ok report)
    (ht : ∀ t ∈ report.texts, isEncodable t = true) :
    Value.Composed (isEncodable · = true) Json.IsPortable report.toValue := by
  have hshort : ∀ n ∈ Failure.descriptorCodes, Json.isLong n = false := by
    intro n hn
    have hdigit : ∀ n ∈ Failure.descriptorCodes, n.natAbs < 10 := by decide
    rw [Json.isLong_eq_false]
    exact (hdigit n hn).trans_le (Nat.le_self_pow (by decide) 10)
  obtain ⟨paths, rs, -, t, rfl⟩ := trail_of_report h
  exact Report.composed ht fun r hr n hn => hshort n (t.exitCode r hr n hn)

/-- a report with octets is shown as its document -/
theorem data_of_composed (hc : c.format = .json)
    (h : Value.Composed (isEncodable · = true) Json.IsPortable report.toValue) :
    report.data c = .ok (Json.render report.toValue ++ "\n") := by
  have hoctets : isEncodable (Json.render report.toValue ++ "\n") = true :=
    isEncodable_append.2 ⟨Json.isEncodable_write h 0, rfl⟩
  rw [Report.data, if_pos hc, Console.json, Console.data, encode_of_isEncodable hoctets]

theorem format_of_console (hc : Console.of s.env s.watched options = .ok c) {f : Format} (h : options.format = some f) :
    c.format = f := by
  simp only [Console.of, bind, Except.bind] at hc
  split at hc
  · cases hc
  · split at hc
    · cases hc
    · rw [← Except.ok.inj hc]
      simp [h]

/-- **The report is read back.** Where a command that is asked for JSON reaches its report, and all texts in the report
have octets, the first stream holds one document and an end of line. The document holds the value of the report and
nothing else, and so does the whole stream; and the value is that of no other report. -/
theorem run_report (hwords : Request.ofWords words = .ok (.generate options overrides dryRun))
    (hjson : options.format = some .json) (hconsole : Console.of s.env s.watched options = .ok c)
    (hsettings : Settings.resolve s.fs s.env overrides = .ok settings)
    (hreport : ((Generate.run settings dryRun interrupt).run (opening s.fs settings)).1 = .ok report)
    (htexts : ∀ t ∈ report.texts, isEncodable t = true) :
    let document := Json.render report.toValue
    (run s interrupt words).out = document ++ "\n" ∧ Json.read document = .ok report.toValue ∧
      Json.read (run s interrupt words).out = .ok report.toValue ∧ Report.ofValue report.toValue = .ok report ∧
      (run s interrupt words).exit = .ok (if report.ok then 0 else 6) := by
  intro document
  have hcomposed := composed_of_run hreport htexts
  have hexact : Value.Composed (isEncodable · = true) Json.IsExact report.toValue :=
    hcomposed.mono (fun _ h => h) fun _ h => h.exact
  have hdata := data_of_composed (format_of_console hconsole hjson) hcomposed
  have hgen := generate_of_report (c := c) hsettings (Prod.ext hreport rfl)
  rw [hdata] at hgen
  have hrun : run s interrupt words = _ := run_eq_conclude hwords hconsole interrupt
  rw [conclude_ok (Prod.ext hgen rfl)] at hrun
  have hout : (run s interrupt words).out = document ++ "\n" := by rw [hrun]
  refine ⟨hout, ?_, ?_, ?_, ?_⟩
  · have hread := Json.read_render hexact [] (by simp)
    rwa [List.append_nil] at hread
  · rw [hout]
    exact Json.read_render hexact "\n" (List.forall_mem_singleton.2 rfl)
  · rw [Report.ofValue, Report.check_toValue]
  · rw [hrun]
    rfl

/-- a report of a declaration and of a failure, with a quote, a backslash, an end of line and a letter beyond ASCII -/
theorem run_report_two :
    let s : Surroundings := ⟨⟨[([("d" : Text)], .directory 0o755),
      (["d", "A.json"], .file (Utf8.encodeAll "\x7b\"name\":\"A\",\"methods\":[]\x7d") 0o644),
      (["d", "é\"\\\n.json"], .file (Utf8.encodeAll "[1,\n\"\\\"ü\n") 0o644)], [], 0o022, [], .usual⟩,
      [], "Linux", false, "20240101_000000"⟩
    let words : List Text := ["--json", "-q", "generate", "d"]
    let options : Console.Options := ⟨some .json, false, true, false⟩
    let overrides : Settings.Overrides := ⟨some (.text "d"), none, none, none⟩
    let settings : Settings := ⟨"d", ".json", ".d.ts", false⟩
    let report : Report := ⟨"d", false, [⟨"/d/A.json", some "/d/A.d.ts", .written, none, none⟩,
      ⟨"/d/é\"\\\n.json", none, .failed, some ("Invalid JSON in /d/é\"\\\n.json: Invalid control character at: " ++
        "line 2 column 5 (char 8)"), some 4⟩]⟩
    Request.ofWords words = .ok (.generate options overrides false) ∧ options.format = some .json ∧
      (∃ c, Console.of s.env s.watched options = .ok c) ∧ Settings.resolve s.fs s.env overrides = .ok settings ∧
      ((Generate.run settings false none).run (opening s.fs settings)).1 = .ok report ∧
      (∀ t ∈ report.texts, isEncodable t = true) ∧
      (run s none words).out = Json.render report.toValue ++ "\n" ∧
      Json.read (Json.render report.toValue) = .ok report.toValue ∧
      Json.read (run s none words).out = .ok report.toValue ∧ Report.ofValue report.toValue = .ok report ∧
      (run s none words).exit = .ok 6 := by
  intro s words options overrides settings report
  have hwords : Request.ofWords words = .ok (.generate options overrides false) := rfl
  obtain ⟨c, hconsole⟩ : ∃ c, Console.of s.env s.watched options = .ok c := ⟨_, rfl⟩
  have hsettings : Settings.resolve s.fs s.env overrides = .ok settings := by decide +kernel
  have hreport : ((Generate.run settings false none).run (opening s.fs settings)).1 = .ok report := by
    decide +kernel
  have htexts : ∀ t ∈ report.texts, isEncodable t = true := by decide
  exact ⟨hwords, rfl, ⟨c, hconsole⟩, hsettings, hreport, htexts,
    run_report hwords rfl hconsole hsettings hreport htexts⟩

end Program
end Typings
