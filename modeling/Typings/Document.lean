/-
Structured texts: JSON or YAML, by what is known of the file they come from.

A text of unknown form is tried as JSON first and as YAML then; one that is said to be JSON is nothing else.
-/
import Typings.Failure
import Typings.Json.Reader
import Typings.Yaml.Document

namespace Typings.Document

/-- what is known of a text's form -/
inductive Form
  | json
  | yaml
  | either
  deriving DecidableEq, Repr

/-- the form that a file's name tells -/
def Form.ofPath (p : Path) : Form :=
  let extension := Text.toLower p.suffix
  if extension = (".json" : Text) then .json
  else if extension = (".yaml" : Text) ∨ extension = (".yml" : Text) then .yaml
  else .either

/-- a path in a message -/
def shown : Option Path → Text
  | some p => p.toText
  | none => "None"

/-- a text that is not well-formed -/
def malformed {α : Type} (path : Option Path) (message : Text) : Except Trouble α :=
  .error (.failure (Failure.of (.descriptor path) message))

/-- a text read as YAML; `jsonError` says why it is no JSON, if that was tried -/
def readYaml (path : Option Path) (jsonError : Option Json.Error) (text : Text) : Except Trouble Value :=
  match Yaml.read text with
  | .ok v => .ok v
  | .error (.fault f) => .error (.crash f.crash)
  | .error e =>
    malformed path ("Failed to parse " ++ shown path ++ " as JSON or YAML"
      ++ (match jsonError with
        | some j => "\n  JSON error: " ++ j.message
        | none => [])
      ++ "\n  YAML error: " ++ e.message text)

/-- the value of a text -/
def read (form : Form) (path : Option Path) (text : Text) : Except Trouble Value :=
  if form = .yaml then readYaml path none text
  else match Json.read text with
    | .ok v => .ok v
    | .error (.digits count) => .error (.crash (.value (Json.digitLimitMessage count)))
    | .error (.malformed e) =>
      if form = .json then malformed path ("Invalid JSON in " ++ shown path ++ ": " ++ e.message)
      else readYaml path (some e) text

end Typings.Document
