/-
Requests: what the words of a command line ask for.

General options stand before the command and its own options after it, mixed with its arguments. Of an option that
is given more than once the last counts. A question for the version or for help is answered before anything that
comes after its command, but only if every option of its part of the line is known.
-/
import Typings.CommandLine.Options
import Typings.Console
import Typings.Settings

namespace Typings.CommandLine

/-- a question that is answered at once -/
inductive Inquiry
  | version
  | help
  deriving DecidableEq, Repr

inductive Request
  | inquiry (i : Inquiry)
  /-- declarations for all descriptors of a directory -/
  | generate (options : Console.Options) (overrides : Settings.Overrides) (dryRun : Bool)
  /-- the declaration of one descriptor -/
  | render (options : Console.Options) (path : Text)

/-- general options -/
structure General where
  inquiry : Option Inquiry := none
  console : Console.Options := {}

namespace General

/-- the first question counts -/
def ask (i : Inquiry) (g : General) : General := { g with inquiry := g.inquiry.or (some i) }

def rules : List (Rule General) := [
  .switch "--version" none (ask .version),
  .switch "--help" none (ask .help),
  .switch "--json" none fun g => { g with console := { g.console with format := some .json } },
  .switch "--no-color" none fun g => { g with console := { g.console with noColour := true } },
  .switch "--quiet" (some 'q') fun g => { g with console := { g.console with quiet := true } },
  .switch "--verbose" (some 'v') fun g => { g with console := { g.console with verbose := true } }]

end General

/-- options of a command -/
structure Particular where
  help : Bool := false
  overrides : Settings.Overrides := {}
  dryRun : Bool := false

namespace Particular

def setFailFast (b : Bool) (p : Particular) : Particular :=
  { p with overrides := { p.overrides with failFast := some (.bool b) } }

def helpRule : Rule Particular := .switch "--help" none fun p => { p with help := true }

def generateRules : List (Rule Particular) := [
  helpRule,
  .value "--suffix" fun t p => { p with overrides := { p.overrides with descriptorSuffix := some (.text t) } },
  .value "--out-suffix" fun t p => { p with overrides := { p.overrides with declarationSuffix := some (.text t) } },
  .switch "--fail-fast" none (setFailFast true),
  .switch "--no-fail-fast" none (setFailFast false),
  .switch "--dry-run" (some 'n') fun p => { p with dryRun := true }]

def renderRules : List (Rule Particular) := [helpRule]

end Particular

namespace Request

/-- the command that generates all declarations, by the words after its name -/
def generateOf (options : Console.Options) (words : List Text) : Except Misuse Request := do
  let (p, arguments) ← Rule.read Particular.generateRules true {} words
  if p.help then return .inquiry .help
  match arguments with
  | [] => return .generate options p.overrides p.dryRun
  | [directory] => return .generate options { p.overrides with sourceDir := some (.text directory) } p.dryRun
  | _ :: more => throw (.extraArguments more)

/-- the command that shows one declaration, by the words after its name -/
def renderOf (options : Console.Options) (words : List Text) : Except Misuse Request := do
  let (p, arguments) ← Rule.read Particular.renderRules true {} words
  if p.help then return .inquiry .help
  match arguments with
  | [] => throw (.missingArgument "DESCRIPTOR")
  | [path] => return .render options path
  | _ :: more => throw (.extraArguments more)

/-- a word that is no command; general options after two dashes still ask their question -/
def ofUnknown (name : Text) (words : List Text) : Except Misuse Request := do
  let (g, _) ← Rule.read General.rules false {} (name :: words)
  match g.inquiry with
  | some i => return .inquiry i
  | none => throw (.unknownCommand name)

/-- what words ask for -/
def ofWords (words : List Text) : Except Misuse Request := do
  if words.isEmpty then throw .noArguments
  let (g, rest) ← Rule.read General.rules false {} words
  match g.inquiry, rest with
  | some i, _ => return .inquiry i
  | none, [] => throw .noCommand
  | none, name :: more =>
    if name = ("generate" : Text) then generateOf g.console more
    else if name = ("render" : Text) then renderOf g.console more
    else ofUnknown name more

end Request
end Typings.CommandLine
