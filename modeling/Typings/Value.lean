/-
Document values: what a JSON or YAML text holds, before anything is asked of its shape.

A mapping is a list of entries in the order of their first appearance; its keys are values too, and two keys that
are equal as numbers (1, 1.0 and true) are one key. A container that a text puts inside itself stands there as
`again`, with a finite copy of what it holds.
-/
import Typings.Calendar
import Typings.Number.Shortest
import Typings.Text.Quoted

namespace Typings

inductive Value
  | null
  | bool (b : Bool)
  | int (n : Int)
  | float (x : Binary64)
  | text (t : Text)
  | list (items : List Value)
  | map (entries : List (Value × Value))
  | bytes (s : Bytes)
  | date (d : Date)
  | datetime (t : DateTime)
  | set (items : List Value)
  | tuple (items : List Value)
  | again (copy : Value)
  deriving Inhabited, Repr

namespace Value

/-- a value without the mark that it stands inside itself -/
def seen : Value → Value
  | .again v => v
  | v => v

/-- the name of a value's kind, as messages give it -/
def kind : Value → Text
  | .null => "NoneType"
  | .bool _ => "bool"
  | .int _ => "int"
  | .float _ => "float"
  | .text _ => "str"
  | .list _ => "list"
  | .map _ => "dict"
  | .bytes _ => "bytes"
  | .date _ => "date"
  | .datetime _ => "datetime"
  | .set _ => "set"
  | .tuple _ => "tuple"
  | .again v => v.kind

/-- the number a value is, for comparing keys -/
def number? : Value → Option (Int ⊕ Binary64)
  | .bool b => some (.inl (if b then 1 else 0))
  | .int n => some (.inl n)
  | .float x =>
    match x.toInt? with
    | some n => some (.inl n)
    | none => some (.inr x)
  | _ => none

/-- whether two values are the same key -/
def sameKey (a b : Value) : Bool :=
  match a, b with
  | .null, .null => true
  | .text s, .text t => s == t
  | .bytes s, .bytes t => s == t
  | .date d, .date e => d == e
  | .datetime s, .datetime t => s.same t
  | a, b =>
    match a.number?, b.number? with
    | some (.inl m), some (.inl n) => m == n
    | some (.inr x), some (.inr y) => x.same y
    | _, _ => false

/-- the entry of a key, if there is one -/
def find? (key : Value) (entries : List (Value × Value)) : Option Value :=
  (entries.find? fun e => e.1.sameKey key).map (·.2)

/-- the value under a text key -/
def get? (key : Text) (entries : List (Value × Value)) : Option Value := find? (.text key) entries

/-- an entry put into a mapping: a known key keeps its place and its spelling and takes the new value -/
def insert (entries : List (Value × Value)) (key value : Value) : List (Value × Value) :=
  if entries.any fun e => e.1.sameKey key then
    entries.map fun e => if e.1.sameKey key then (e.1, value) else e
  else entries ++ [(key, value)]

/-- the mapping that entries make, put in one after the other -/
def ofEntries (entries : List (Value × Value)) : List (Value × Value) :=
  entries.foldl (fun m e => insert m e.1 e.2) []

mutual

/-- a value on one line, as messages show it -/
def quoted : Value → Text
  | .null => "None"
  | .bool b => if b then "True" else "False"
  | .int n => Text.ofInt n
  | .float x => x.render Binary64.plainStyle
  | .text t => t.quoted
  | .list items => "[" ++ Text.join ", " (quotedAll items) ++ "]"
  | .map entries => "\x7b" ++ Text.join ", " (quotedEntries entries) ++ "\x7d"
  | .bytes s => Bytes.quoted s
  | .date d => d.quoted
  | .datetime t => t.quoted
  | .set items => if items.isEmpty then "set()" else "\x7b" ++ Text.join ", " (quotedAll items) ++ "\x7d"
  | .tuple items =>
    "(" ++ Text.join ", " (quotedAll items) ++ Text.only (items.length == 1) "," ++ ")"
  | .again v =>
    match v with
    | .list _ => "[...]"
    | .set _ => "set(...)"
    | _ => "\x7b...\x7d"

def quotedAll : List Value → List Text
  | [] => []
  | v :: r => quoted v :: quotedAll r

def quotedEntries : List (Value × Value) → List Text
  | [] => []
  | (k, v) :: r => (quoted k ++ ": " ++ quoted v) :: quotedEntries r

end

end Value
end Typings
