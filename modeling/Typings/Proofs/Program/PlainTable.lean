/-
Plain tables: what a reader of lines and tabs gets back.

Cells are written as they are, so a tab or an end of line in one of them cannot be told from those between the cells.
- `Table.toLines_readsBack_iff`: a table is read back exactly when none of its cells holds a tab or an end of line.
- `failures_read_back`: the failures of a run are read back from the first stream exactly when this is so for all
  sources and messages, and all of them have octets.
- `messages_break_lines`: the price. A message quotes names from the descriptor, and these may hold ends of lines.
-/
import Typings.Proofs.Declaration.Lines
import Typings.Proofs.Program.JsonReport

namespace Typings

open Utf8

/-! ## Tables -/

namespace Table

/-- a text in which nothing stands that ends a cell or a line -/
def IsCell (t : Text) : Prop := CodePoint.ofChar '\t' ∉ t ∧ CodePoint.ofChar '\n' ∉ t

instance (t : Text) : Decidable (IsCell t) :=
  inferInstanceAs (Decidable (CodePoint.ofChar '\t' ∉ t ∧ CodePoint.ofChar '\n' ∉ t))

/-- a text has one line for each row and nothing behind the last one, and the tabs of a line split it into the cells of
its row -/
def ReadsBack (t : Text) (rows : List (List Text)) : Prop :=
  (Text.splitAt '\n' t).map (Text.splitAt '\t') = rows ++ [[[]]]

instance (t : Text) (rows : List (List Text)) : Decidable (ReadsBack t rows) :=
  inferInstanceAs (Decidable (_ = _))

/-- a cell that is read back is a piece of the text -/
theorem ReadsBack.mem {t : Text} {rows : List (List Text)} (h : ReadsBack t rows) {row : List Text} (hrow : row ∈ rows)
    {cell : Text} (hcell : cell ∈ row) : IsCell cell ∧ ∀ c ∈ cell, c ∈ t := by
  have hmem : row ∈ (Text.splitAt '\n' t).map (Text.splitAt '\t') := h ▸ List.mem_append_left _ hrow
  obtain ⟨line, hline, rfl⟩ := List.mem_map.1 hmem
  have hinner : ∀ c ∈ cell, c ∈ line := fun c hc => Text.mem_of_mem_splitAt hcell hc
  exact ⟨⟨Text.not_mem_of_mem_splitAt hcell, fun hn => Text.not_mem_of_mem_splitAt hline (hinner _ hn)⟩,
    fun c hc => Text.mem_of_mem_splitAt hline (hinner c hc)⟩

/-- cells joined by tabs are split at these tabs -/
theorem splitAt_joined {row : List Text} (hne : row ≠ []) (h : ∀ cell ∈ row, IsCell cell) :
    Text.splitAt '\t' (Text.join "\t" row) = row := by
  have hsplit : Text.splitAt '\t' (Text.join [CodePoint.ofChar '\t'] row) = row.flatMap (Text.splitAt '\t') :=
    Text.splitAt_join hne
  have hcells : row.flatMap (Text.splitAt '\t') = row.flatMap fun cell => [cell] :=
    List.flatMap_congr fun cell hcell => Text.splitAt_of_not_mem (h cell hcell).1
  exact hsplit.trans (hcells.trans (List.flatMap_singleton' row))

theorem newline_not_mem_joined {row : List Text} (h : ∀ cell ∈ row, IsCell cell) :
    CodePoint.ofChar '\n' ∉ Text.join "\t" row := by
  intro hn
  rcases Text.mem_join hn with hn | ⟨cell, hcell, hn⟩
  · exact absurd hn (by decide)
  · exact (h cell hcell).2 hn

theorem toLines_eq (t : Table) : t.toLines = Text.ofLines ((t.headers :: t.rows).map (Text.join "\t")) := by
  rw [toLines, Text.ofLines, List.flatMap_map]
  rfl

/-- **A table is read back** exactly when nothing in its cells ends a cell or a line. -/
theorem toLines_readsBack_iff {t : Table} (hne : ∀ row ∈ t.headers :: t.rows, row ≠ []) :
    ReadsBack t.toLines (t.headers :: t.rows) ↔ ∀ row ∈ t.headers :: t.rows, ∀ cell ∈ row, IsCell cell := by
  constructor
  · exact fun h row hrow cell hcell => (h.mem hrow hcell).1
  · intro h
    have hlines : ∀ l ∈ (t.headers :: t.rows).map (Text.join "\t"), CodePoint.ofChar '\n' ∉ l :=
      List.forall_mem_map.2 fun row hrow => newline_not_mem_joined (h row hrow)
    have hrows : ((t.headers :: t.rows).map (Text.join "\t")).map (Text.splitAt '\t') = t.headers :: t.rows := by
      rw [List.map_map]
      exact (List.map_congr_left fun row hrow => splitAt_joined (hne row hrow) (h row hrow)).trans (List.map_id _)
    rw [ReadsBack, toLines_eq, Text.splitAt_ofLines hlines, List.map_append, hrows]
    rfl

theorem isEncodable_toLines {t : Table}
    (h : ∀ row ∈ t.headers :: t.rows, ∀ cell ∈ row, isEncodable cell = true) : isEncodable t.toLines = true := by
  rw [isEncodable_iff]
  intro c hc
  obtain ⟨row, hrow, hc⟩ := List.mem_flatMap.1 hc
  have hline : isEncodable (line row) = true := isEncodable_append.2 ⟨isEncodable_join rfl (h row hrow), rfl⟩
  exact isEncodable_iff.1 hline c hc

/-- nothing is read back from an empty text -/
theorem not_readsBack_nil {rows : List (List Text)} (h : rows ≠ []) : ¬ ReadsBack [] rows := by
  intro hback
  have hlength := congrArg List.length hback
  simp [Text.splitAt, h] at hlength

end Table

/-! ## Failures -/

namespace FileResult

/-- a result whose source and message can stand in a line of a plain table -/
def IsLegible (f : FileResult) : Prop :=
  ∀ t ∈ [f.source, f.error.getD []], Table.IsCell t ∧ isEncodable t = true

instance (f : FileResult) : Decidable f.IsLegible :=
  inferInstanceAs (Decidable (∀ t ∈ [f.source, f.error.getD []], Table.IsCell t ∧ isEncodable t = true))

end FileResult

namespace Report

variable {report : Report}

/-- the rows of a table of failures, the headers first -/
def failureRows (r : Report) : List (List Text) :=
  ["Descriptor", "Error"] :: r.failed.map fun f => [f.source, f.error.getD []]

theorem legible_iff : (∀ f ∈ report.failed, f.IsLegible) ↔
    ∀ row ∈ report.failureRows, ∀ cell ∈ row, Table.IsCell cell ∧ isEncodable cell = true := by
  have hheaders : ∀ cell ∈ [("Descriptor" : Text), "Error"], Table.IsCell cell ∧ isEncodable cell = true := by decide
  simp only [failureRows, List.forall_mem_cons (a := [("Descriptor" : Text), "Error"]), List.forall_mem_map]
  exact ⟨fun h => ⟨hheaders, h⟩, fun h => h.2⟩

/-- **Failures are read back** from what a report adds to the first stream, if that is anything, exactly when all of
them are legible. -/
theorem data_readsBack_iff {c : Console} (hplain : c.format = .plain) (hfailed : report.ok = false) :
    (∃ out, report.data c = .ok out ∧ Table.ReadsBack out report.failureRows) ↔
      ∀ f ∈ report.failed, f.IsLegible := by
  have hne : ∀ row ∈ report.failureTable.headers :: report.failureTable.rows, row ≠ [] := by
    simp [failureTable]
  have hdata : report.data c = Console.data report.failureTable.toLines := by
    simp [Report.data, Console.table, hplain, hfailed]
  rw [hdata, legible_iff, Console.data]
  constructor
  · rintro ⟨out, hout, hback⟩ row hrow cell hcell
    split at hout
    · rename_i octets hoctets
      cases hout
      obtain ⟨hcell, hmem⟩ := hback.mem hrow hcell
      exact ⟨hcell, isEncodable_iff.2 fun c hc => isEncodable_iff.1 (isEncodable_of_encode hoctets) c (hmem c hc)⟩
    · cases hout
  · intro h
    have hoctets : isEncodable report.failureTable.toLines = true :=
      Table.isEncodable_toLines fun row hrow cell hcell => (h row hrow cell hcell).2
    rw [encode_of_isEncodable hoctets]
    exact ⟨_, rfl, (Table.toLines_readsBack_iff hne).2 fun row hrow cell hcell => (h row hrow cell hcell).1⟩

end Report

namespace Program

open CommandLine FileSystem Generate

variable {s : Surroundings} {interrupt : Option Nat} {words : List Text} {options : Console.Options}
  {overrides : Settings.Overrides} {dryRun : Bool} {c : Console} {settings : Settings} {report : Report}

/-- a failure has a message -/
theorem failed_message (h : ((Generate.run settings dryRun interrupt).run (opening s.fs settings)).1 = .ok report) :
    ∀ f ∈ report.failed, ∃ message, f.error = some message := by
  obtain ⟨paths, rs, -, t, rfl⟩ := trail_of_report h
  intro f hf
  obtain ⟨hmem, hstatus⟩ := List.mem_filter.1 hf
  obtain ⟨p, hcoherent⟩ := t.coherent_of_mem hmem
  obtain ⟨-, e, -, -, herror, -⟩ := hcoherent.failed (by simpa using hstatus)
  exact ⟨e.message, herror⟩

/-- a crash leaves nothing on the first stream -/
theorem conclude_crash_out {command : Running (Text × Int)} {e : Crash}
    (h : (command.run ⟨s.fs, []⟩).1 = .error (.trouble (.crash e))) : (conclude s c command).out = [] := by
  rcases hx : command.run ⟨s.fs, []⟩ with ⟨x, scene⟩
  rw [hx] at h
  obtain rfl : x = .error (.trouble (.crash e)) := h
  simp only [conclude, hx]
  rcases CrashLog.write scene.fs s.system s.env s.moment e with ⟨fs', y⟩
  cases y <;> rfl

/-- **The failures of a run are read back** from the first stream, each source with its message and in their order,
exactly when all of them are legible. -/
theorem failures_read_back (hwords : Request.ofWords words = .ok (.generate options overrides dryRun))
    (hconsole : Console.of s.env s.watched options = .ok c) (hplain : c.format = .plain)
    (hsettings : Settings.resolve s.fs s.env overrides = .ok settings)
    (hreport : ((Generate.run settings dryRun interrupt).run (opening s.fs settings)).1 = .ok report)
    (hfailed : report.ok = false) :
    (∀ f ∈ report.failed, ∃ message, f.error = some message) ∧
      (Table.ReadsBack (run s interrupt words).out report.failureRows ↔ ∀ f ∈ report.failed, f.IsLegible) ∧
      ((∀ f ∈ report.failed, f.IsLegible) → (run s interrupt words).exit = .ok 6) := by
  have hgen := generate_of_report (c := c) hsettings (Prod.ext hreport rfl)
  have hrun := run_eq_conclude hwords hconsole interrupt
  have hback := Report.data_readsBack_iff hplain hfailed
  refine ⟨failed_message hreport, ?_⟩
  rw [← hback]
  cases hdata : report.data c with
  | error e =>
    rw [hdata] at hgen
    rw [hrun, conclude_crash_out hgen]
    have hnone : ¬ Table.ReadsBack [] report.failureRows := Table.not_readsBack_nil (by simp [Report.failureRows])
    simp [hnone]
  | ok out =>
    rw [hdata, hfailed] at hgen
    rw [hrun, conclude_ok (Prod.ext hgen rfl)]
    simp [partlyFailed]

/-- two descriptors that fail, and one that does not -/
theorem failures_read_back_two :
    let s : Surroundings := ⟨⟨[([("d" : Text)], .directory 0o755),
      (["d", "A.json"], .file (Utf8.encodeAll "\x7b\"name\":\"A\",\"methods\":[]\x7d") 0o644),
      (["d", "B.json"], .file (Utf8.encodeAll "\x7b\"name\":\"B\"\x7d") 0o644),
      (["d", "C.json"], .file [] 0o644)], [], 0o022, [], .usual⟩, [], "Linux", false, "20240101_000000"⟩
    let words : List Text := ["generate", "d"]
    ∃ report : Report, ((Generate.run ⟨"d", ".json", ".d.ts", false⟩ false none).run
        (opening s.fs ⟨"d", ".json", ".d.ts", false⟩)).1 = .ok report ∧ report.failed.length = 2 ∧
      (∀ f ∈ report.failed, ∃ message, f.error = some message) ∧
      Table.ReadsBack (run s none words).out report.failureRows ∧ (run s none words).exit = .ok 6 := by
  intro s words
  let settings : Settings := ⟨"d", ".json", ".d.ts", false⟩
  let report : Report := ⟨"d", false, [⟨"/d/A.json", some "/d/A.d.ts", .written, none, none⟩,
    ⟨"/d/B.json", none, .failed, some "Invalid descriptor in /d/B.json: methods: Field required", some 4⟩,
    ⟨"/d/C.json", none, .failed, some "Descriptor file is empty: /d/C.json", some 4⟩]⟩
  have hwords : Request.ofWords words =
      .ok (.generate ⟨none, false, false, false⟩ ⟨some (.text "d"), none, none, none⟩ false) := rfl
  obtain ⟨c, hconsole, hplain⟩ :
      ∃ c, Console.of s.env s.watched ⟨none, false, false, false⟩ = .ok c ∧ c.format = .plain := ⟨_, rfl, rfl⟩
  have hsettings : Settings.resolve s.fs s.env ⟨some (.text "d"), none, none, none⟩ = .ok settings := by
    decide +kernel
  have hreport : ((Generate.run settings false none).run (opening s.fs settings)).1 = .ok report := by
    decide +kernel
  obtain ⟨hmessages, hback, hexit⟩ := failures_read_back hwords hconsole hplain hsettings hreport rfl
  have hlegible : ∀ f ∈ report.failed, f.IsLegible := by decide
  exact ⟨report, hreport, rfl, hmessages, hback.2 hlegible, hexit hlegible⟩

/-- **An end of line in a message breaks its line.** A name in a descriptor is quoted as it is in what is said of it. -/
theorem messages_break_lines :
    let s : Surroundings := ⟨⟨[([("d" : Text)], .directory 0o755), (["d", "A.json"], .file (Utf8.encodeAll
      ("\x7b\"name\":\"A\",\"methods\":[\x7b\"name\":\"m\",\"params\":\x7b\"a\\nb\":1\x7d," ++
        "\"returnType\":\"void\"\x7d]\x7d")) 0o644)], [], 0o022, [], .usual⟩, [], "Linux", false, "20240101_000000"⟩
    let settings : Settings := ⟨"d", ".json", ".d.ts", false⟩
    let report : Report := ⟨"d", false, [⟨"/d/A.json", none, .failed, some ("Invalid descriptor in /d/A.json: " ++
      "methods.0.params.a\nb: Input should be a valid string"), some 4⟩]⟩
    ((Generate.run settings false none).run (opening s.fs settings)).1 = .ok report ∧ report.ok = false ∧
      (run s none ["generate", "d"]).exit = .ok 6 ∧
      ¬ Table.ReadsBack (run s none ["generate", "d"]).out report.failureRows := by
  intro s settings report
  refine ⟨by decide +kernel, rfl, by decide +kernel, by decide +kernel⟩

end Program
end Typings
