/-
Settings of a generation: where the descriptors are, how their files and the generated ones end, and whether the
first failure ends the run.

`resolve` takes each setting from the first source that gives it: the command line, the environment, the project
file, the default. An environment variable that is empty gives nothing.
-/
import Typings.Environment
import Typings.Failure
import Typings.FileSystem.Operations
import Typings.Json.Reader
import Typings.Shape.Check
import Typings.Text.Newline

namespace Typings

structure Settings where
  sourceDir : Text
  descriptorSuffix : Text
  declarationSuffix : Text
  failFast : Bool
  deriving DecidableEq, Repr

namespace Settings

open Shape Shape.Checked

/-- the settings of a project that sets nothing -/
def default : Settings := ⟨"JvTypeGen/output/json", ".json", ".d.ts", false⟩

/-- the keys of the settings -/
def sourceDirKey : Text := "source_dir"
def descriptorSuffixKey : Text := "descriptor_suffix"
def declarationSuffixKey : Text := "declaration_suffix"
def failFastKey : Text := "fail_fast"

def keys : List Text := [sourceDirKey, descriptorSuffixKey, declarationSuffixKey, failFastKey]

/-- the name of the record in messages -/
def recordName : Text := "GeneratorConfig"

/-- the settings that a mapping gives; it may leave out some but must not hold others -/
def check : Value → Checked Settings :=
  record recordName fun _ entries => thenCheck (readable entries) <|
    (fun a b c d (_ : Unit) => Settings.mk a b c d)
      <$> withDefault entries sourceDirKey none default.sourceDir text
      <*> withDefault entries descriptorSuffixKey none default.descriptorSuffix text
      <*> withDefault entries declarationSuffixKey none default.declarationSuffix text
      <*> withDefault entries failFastKey none default.failFast Shape.bool
      <*> onlyKeys keys entries

/-- the settings that a value gives, or all that is wrong with it -/
def ofValue (v : Value) : Except Text Settings :=
  match check v with
  | .ok s => .ok s
  | .bad issues => .error (report recordName issues)

/-! ## Sources -/

/-- a failure of the settings -/
def failure {α : Type} (message : Text) : Except Trouble α :=
  .error (.failure (Failure.of .settings message))

/-- the name of the project file -/
def projectFileName : Text := "dtsgen.json"

/-- the content of the project file at a path -/
def readProject (path : Path) (content : Except Crash Bytes) : Except Trouble (List (Value × Value)) :=
  let invalid {α : Type} (why : Text) : Except Trouble α :=
    failure ("Invalid project config at " ++ path.toText ++ ": " ++ why)
  match content with
  | .error c => invalid c.message
  | .ok octets =>
    match Utf8.decode octets with
    | .error e => invalid e.message
    | .ok t =>
      match Json.read (Text.unifyNewlines t) with
      | .error e => invalid e.message
      | .ok (.map entries) => .ok entries
      | .ok _ => invalid "expected a JSON object"

/-- the entries of the project file in a directory, or none if there is no such file -/
def projectEntries (fs : FileSystem) (directory : Path) : Except Trouble (Option (List (Value × Value))) :=
  let path := directory.child projectFileName
  match fs.look path.toText with
  | .error c => .error (.crash c)
  | .ok (some (.file _ _)) => (readProject path (fs.readFile path.toText)).map some
  | .ok _ => .ok none

/-- settings from the command line, before they are checked -/
structure Overrides where
  sourceDir : Option Value := none
  descriptorSuffix : Option Value := none
  declarationSuffix : Option Value := none
  failFast : Option Value := none

/-- the overrides that are given, under their keys -/
def Overrides.entries (o : Overrides) : List (Text × Value) :=
  [(sourceDirKey, o.sourceDir), (descriptorSuffixKey, o.descriptorSuffix),
    (declarationSuffixKey, o.declarationSuffix), (failFastKey, o.failFast)].filterMap
    fun e => e.2.map (e.1, ·)

/-- the variables that give settings -/
def sourceVariables : List (Text × Text) :=
  [("DTSGEN_SOURCE_DIR", sourceDirKey), ("DTSGEN_DESCRIPTOR_SUFFIX", descriptorSuffixKey),
    ("DTSGEN_DECLARATION_SUFFIX", declarationSuffixKey)]

/-- the settings that the environment gives, under their keys -/
def environmentEntries (env : Environment) : List (Text × Value) :=
  sourceVariables.filterMap fun (name, key) =>
    match Environment.get? env name with
    | some t => if t.isEmpty then none else some (key, .text t)
    | none => none

/-- entries put over others -/
def override (entries : List (Value × Value)) (more : List (Text × Value)) : List (Value × Value) :=
  more.foldl (fun es e => Value.insert es (.text e.1) e.2) entries

/-- settings whose files would not be told apart are refused -/
def checkSuffixes (s : Settings) : Except Trouble Settings :=
  if s.descriptorSuffix.isEmpty || s.declarationSuffix.isEmpty then
    failure "Descriptor and declaration suffixes must not be empty"
  else if s.descriptorSuffix = s.declarationSuffix then
    failure ("Descriptor and declaration suffixes are both '" ++ s.descriptorSuffix
      ++ "'; generated files would overwrite their sources")
  else .ok s

/-- the settings of a run -/
def resolve (fs : FileSystem) (env : Environment) (overrides : Overrides) : Except Trouble Settings := do
  let directory ← fs.workingDirectory.mapError Trouble.crash
  let project ← projectEntries fs directory
  let entries := override (override (project.getD []) (environmentEntries env)) overrides.entries
  match ofValue (.map entries) with
  | .error message => failure ("Invalid configuration: " ++ message)
  | .ok s => checkSuffixes s

end Settings
end Typings
