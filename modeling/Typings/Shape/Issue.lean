/-
Issues: what is wrong with the shape of a document value, and at which place in it.

An issue is told in short, as its place and message, or in full, with the value that was found there.
-/
import Typings.Value

namespace Typings.Shape

/-- what is wrong at a place -/
inductive Fault
  | missing
  | notText
  /-- octets or surrogates that are no text -/
  | notUnicode
  | notBool
  /-- a word or number that is no truth value -/
  | unknownBool
  | notInt
  /-- a text that is no integer -/
  | unknownInt
  | fractionalInt
  | infiniteInt
  | hugeInt
  | notList
  | notMapping
  /-- neither a mapping nor a record of a kind -/
  | notRecord (record : Text)
  | unknownKey
  /-- none of some words -/
  | notOneOf (words : List Text)
  deriving DecidableEq, Repr

/-- words in a row, the last one behind an "or" -/
def oneOf (words : List Text) : Text :=
  let shown : List Text := words.map fun w => "'" ++ w ++ "'"
  match shown.reverse with
  | last :: first :: rest => Text.join ", " (first :: rest).reverse ++ " or " ++ last
  | _ => shown.flatten

def Fault.message : Fault → Text
  | .missing => "Field required"
  | .notText => "Input should be a valid string"
  | .notUnicode => "Input should be a valid string, unable to parse raw data as a unicode string"
  | .notBool => "Input should be a valid boolean"
  | .unknownBool => "Input should be a valid boolean, unable to interpret input"
  | .notInt => "Input should be a valid integer"
  | .unknownInt => "Input should be a valid integer, unable to parse string as an integer"
  | .fractionalInt => "Input should be a valid integer, got a number with a fractional part"
  | .infiniteInt => "Input should be a finite number"
  | .hugeInt => "Unable to parse input string as an integer, exceeded maximum size"
  | .notList => "Input should be a valid list"
  | .notMapping => "Input should be a valid dictionary"
  | .notRecord record => "Input should be a valid dictionary or instance of " ++ record
  | .unknownKey => "Extra inputs are not permitted"
  | .notOneOf words => "Input should be " ++ oneOf words

/-- the short name of a fault -/
def Fault.code : Fault → Text
  | .missing => "missing"
  | .notText => "string_type"
  | .notUnicode => "string_unicode"
  | .notBool => "bool_type"
  | .unknownBool => "bool_parsing"
  | .notInt => "int_type"
  | .unknownInt => "int_parsing"
  | .fractionalInt => "int_from_float"
  | .infiniteInt => "finite_number"
  | .hugeInt => "int_parsing_size"
  | .notList => "list_type"
  | .notMapping => "dict_type"
  | .notRecord _ => "model_type"
  | .unknownKey => "extra_forbidden"
  | .notOneOf _ => "enum"

/-- a fault, the keys and positions that lead to its place, and the value found there -/
structure Issue where
  place : List Text
  fault : Fault
  input : Value
  deriving Repr

/-- the place of an issue, its steps joined by dots -/
def Issue.placeText (i : Issue) : Text := Text.join "." i.place

/-- an issue in short; an issue of the whole value is at the root -/
def Issue.brief (i : Issue) : Text :=
  (if i.placeText.isEmpty then ("<root>" : Text) else i.placeText) ++ ": " ++ i.fault.message

/-- all issues in short -/
def summary (issues : List Issue) : Text := Text.join "; " (issues.map Issue.brief)

/-! ## In full -/

/-- how many octets of a value are shown -/
def shownOctets : Nat := 50

/-- the longest beginning of a text with at most `n` octets -/
def takeOctets (n : Nat) : Text → Text
  | [] => []
  | c :: r =>
    let size := (Utf8.encodeOne c).length
    if size ≤ n then c :: takeOctets (n - size) r else []

/-- a long text with its middle left out -/
def shorten (t : Text) : Text :=
  if Utf8.size t ≤ shownOctets then t
  else takeOctets (shownOctets / 2) t ++ "..." ++ (takeOctets (shownOctets / 2 - 1) t.reverse).reverse

/-- where a fault is explained -/
def Fault.reference (f : Fault) : Text := "https://errors.pydantic.dev/2.14/v/" ++ f.code

/-- a step of a place that cannot be taken for two -/
def fencedStep (step : Text) : Text := if step.contains (CodePoint.ofChar '.') then "`" ++ step ++ "`" else step

/-- an issue in full: its place, if it has one, and two lines about it -/
def Issue.lines (i : Issue) : List Text :=
  (if i.place.isEmpty then [] else [Text.join "." (i.place.map fencedStep)]) ++
    ["  " ++ i.fault.message ++ " [type=" ++ i.fault.code ++ ", input_value=" ++ shorten i.input.quoted
      ++ ", input_type=" ++ i.input.kind ++ "]",
    "    For further information visit " ++ i.fault.reference]

/-- all issues of a record in full -/
def report (record : Text) (issues : List Issue) : Text :=
  let count := Text.ofNat issues.length ++ " validation error" ++ Text.only (issues.length != 1) "s"
  Text.join "\n" ((count ++ " for " ++ record) :: issues.flatMap Issue.lines)

end Typings.Shape
