/-
Reports: what became of each descriptor of a run.
-/
import Typings.Shape.Check

namespace Typings

/-- what became of a descriptor -/
inductive Status
  | written
  | unchanged
  | planned
  | failed
  deriving DecidableEq, Repr

namespace Status

/-- all of them, in the order in which they are counted -/
def all : List Status := [.written, .unchanged, .planned, .failed]

def word : Status → Text
  | .written => "written"
  | .unchanged => "unchanged"
  | .planned => "planned"
  | .failed => "failed"

end Status

/-- the result for one descriptor -/
structure FileResult where
  source : Text
  output : Option Text
  status : Status
  error : Option Text
  exitCode : Option Int
  deriving DecidableEq, Repr

/-- the results of a run in the order of its descriptors -/
structure Report where
  sourceDir : Text
  dryRun : Bool
  files : List FileResult
  deriving DecidableEq, Repr

/-- a text, or null for none -/
def Value.ofOptionalText : Option Text → Value
  | some t => .text t
  | none => .null

def FileResult.toValue (f : FileResult) : Value :=
  .map [(.text "source", .text f.source), (.text "output", Value.ofOptionalText f.output),
    (.text "status", .text f.status.word), (.text "error", Value.ofOptionalText f.error),
    (.text "exit_code", match f.exitCode with
      | some n => .int n
      | none => .null)]

namespace Report

/-- how many descriptors have a status -/
def count (r : Report) (s : Status) : Nat := r.files.countP fun f => f.status == s

/-- the results of the descriptors that failed -/
def failed (r : Report) : List FileResult := r.files.filter fun f => f.status == .failed

/-- whether none failed -/
def ok (r : Report) : Bool := r.failed.isEmpty

def toValue (r : Report) : Value :=
  .map [(.text "source_dir", .text r.sourceDir), (.text "dry_run", .bool r.dryRun),
    (.text "files", .list (r.files.map FileResult.toValue))]

end Report

/-! ## Reading reports -/

open Shape Shape.Checked

def Status.check : Value → Checked Status := wordOf (Status.all.map fun s => (s.word, s))

def FileResult.check : Value → Checked FileResult :=
  record "FileResult" fun v entries =>
    FileResult.mk <$> required v entries "source" none text
      <*> withDefault entries "output" none none (optional text)
      <*> required v entries "status" none Status.check
      <*> withDefault entries "error" none none (optional text)
      <*> withDefault entries "exit_code" none none (optional Shape.int)

def Report.check : Value → Checked Report :=
  record "GenerationReport" fun v entries =>
    Report.mk <$> required v entries "source_dir" none text
      <*> withDefault entries "dry_run" none false Shape.bool
      <*> withDefault entries "files" none [] (list FileResult.check)

/-- the report that a value holds, or all that is wrong with it -/
def Report.ofValue (v : Value) : Except Text Report :=
  match Report.check v with
  | .ok r => .ok r
  | .bad issues => .error (Shape.report "GenerationReport" issues)

end Typings
