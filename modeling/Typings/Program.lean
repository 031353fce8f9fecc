/-
The program: from the words of a command line to what the streams, the files and the exit code show.

Data are written only when a command comes to its end; notices are written as they are told. A failure ends with its
own exit code, an interrupt and a misused command line with fixed ones, and a crash leaves a log. Only the writing of
that log can end a run without an exit code.

The texts of the help and of what is wrong with a command line belong to the library that reads the command line. They
stand here in a form of their own: of those runs only the exit code is modelled.
-/
import Typings.CommandLine.Request
import Typings.CrashLog
import Typings.Generate

namespace Typings

namespace Report

/-- how many descriptors have each status, without the statuses that none has -/
def counts (r : Report) : Text :=
  Text.join ", " ((Status.all.filter fun s => r.count s != 0).map fun s => Text.ofNat (r.count s) ++ " " ++ s.word)

/-- the report in one line -/
def summary (r : Report) : Text :=
  "Processed " ++ Text.ofNat r.files.length ++ " descriptor(s)" ++ Text.only (!r.counts.isEmpty) (": " ++ r.counts)

/-- the descriptors that failed, and why -/
def failureTable (r : Report) : Table :=
  { headers := ["Descriptor", "Error"]
    rows := r.failed.map fun f => [f.source, f.error.getD []]
    title := some ("Failed descriptors (" ++ Text.ofNat r.failed.length ++ ")") }

/-- what a report adds to the first stream: all of it as JSON, or the failures as a table -/
def data (c : Console) (r : Report) : Except Crash Text :=
  if c.format = .json then Console.data (Console.json r.toValue)
  else if r.ok then .ok []
  else c.table r.failureTable

end Report

/-- what surrounds a run -/
structure Surroundings where
  fs : FileSystem
  env : Environment
  /-- the name of the operating system -/
  system : Text
  /-- whether the first stream is a terminal -/
  watched : Bool
  /-- the digits of date and time that name a log -/
  moment : Text

/-- what a run leaves -/
structure Outcome where
  fs : FileSystem
  /-- the first stream -/
  out : Text
  /-- the second stream -/
  err : Text
  /-- the exit code, or a crash that nothing handles -/
  exit : Except Crash Int

namespace Program

open CommandLine Running

def name : Text := "dtsgen"

def version : Text := "0.1.0"

/-- exit codes that no failure carries -/
def success : Int := 0
def crashed : Int := 1
def misused : Int := 2
def partlyFailed : Int := 6
def interrupted : Int := 130

/-! ## Commands -/

/-- data for the first stream -/
def data : Except Crash Text → Running Text
  | .ok t => pure t
  | .error c => crash c

/-- generates declarations: the data and the exit code -/
def generate (env : Environment) (c : Console) (overrides : Settings.Overrides) (dryRun : Bool)
    (interrupt : Option Nat) : Running (Text × Int) := do
  let settings ← lift (Settings.resolve (← get).fs env overrides)
  tell (.info ("Generating declarations under " ++ settings.sourceDir))
  let report ← Generate.run settings dryRun interrupt
  let shown ← data (report.data c)
  if report.ok then
    tell (.success report.summary)
    return (shown, success)
  else
    tell (.error report.summary)
    return (shown, partlyFailed)

/-- shows one declaration: the data and the exit code -/
def render (path : Text) : Running (Text × Int) := do
  let text ← lift (Generate.declarationAt (← get).fs (Path.ofText path))
  return (← data (Console.data text), success)

/-! ## Runs -/

/-- a usage line, not in the library's words -/
def usage : Text := "Usage: " ++ name ++ " [OPTIONS] COMMAND [ARGS]...\n"

/-- what is wrong with a command line, not in the library's words -/
def Misuse.message : Misuse → Text
  | .noArguments => "Missing command."
  | .noCommand => "Missing command."
  | .unknownCommand n => "No such command " ++ n.quoted ++ "."
  | .unknownOption n => "No such option: " ++ n
  | .unexpectedValue n => "Option " ++ n.quoted ++ " does not take a value."
  | .missingValue n => "Option " ++ n.quoted ++ " requires an argument."
  | .missingArgument n => "Missing argument " ++ n.quoted ++ "."
  | .extraArguments ws => "Got unexpected extra arguments (" ++ Text.join " " ws ++ ")"

/-- the answer to a question; the help is only a usage line -/
def answer : Inquiry → Text
  | .version => name ++ " " ++ version ++ "\n"
  | .help => usage

/-- how a command ends: its data, notices and exit code, and a log if it crashed -/
def conclude (s : Surroundings) (c : Console) (command : Running (Text × Int)) : Outcome :=
  let (result, scene) := command.run ⟨s.fs, []⟩
  let err := c.notices scene.notices
  match result with
  | .ok (shown, code) => ⟨scene.fs, shown, err, .ok code⟩
  | .error (.trouble (.failure f)) => ⟨scene.fs, [], err ++ c.notice (.error f.message), .ok f.exitCode⟩
  | .error .interrupt => ⟨scene.fs, [], err ++ "\nCancelled.\n", .ok interrupted⟩
  | .error (.trouble (.crash e)) =>
    match CrashLog.write scene.fs s.system s.env s.moment e with
    | (fs, .ok log) =>
      ⟨fs, [], err ++ c.notice (.error ("Unexpected error. Debug log: " ++ log.toText)), .ok crashed⟩
    | (fs, .error e) => ⟨fs, [], err, .error e⟩

/-- runs on a console; one that cannot be made leaves a log, and nothing can tell about it -/
def onConsole (s : Surroundings) (options : Console.Options) (use : Console → Outcome) : Outcome :=
  match Console.of s.env s.watched options with
  | .ok c => use c
  | .error e =>
    match CrashLog.write s.fs s.system s.env s.moment e with
    | (fs, .ok _) => ⟨fs, [], [], .error e⟩
    | (fs, .error e) => ⟨fs, [], [], .error e⟩

/-- a run; an interrupt may come before a descriptor, counted from one -/
def run (s : Surroundings) (interrupt : Option Nat) (words : List Text) : Outcome :=
  match Request.ofWords words with
  | .error m =>
    onConsole s {} fun _ => ⟨s.fs, [], usage ++ "Error: " ++ Misuse.message m ++ "\n", .ok misused⟩
  | .ok (.inquiry .version) => ⟨s.fs, answer .version, [], .ok success⟩
  | .ok (.inquiry .help) => onConsole s {} fun _ => ⟨s.fs, answer .help, [], .ok success⟩
  | .ok (.generate options overrides dryRun) =>
    onConsole s options fun c => conclude s c (generate s.env c overrides dryRun interrupt)
  | .ok (.render options path) => onConsole s options fun c => conclude s c (render path)

end Program
end Typings
