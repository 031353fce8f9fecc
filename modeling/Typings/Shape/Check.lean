/-
Checks: document values as records, with every issue on the way.

A check gives a result or all issues it finds, in the order of the record's parts; two checks side by side give the
issues of both. Some values stand for others: the words, numbers and octets that mean true or false, octets that
are text, and tuples and sets for lists.
-/
import Typings.Shape.Issue
import Typings.Text.Numeral

namespace Typings.Shape

/-- a result, or at least one issue -/
inductive Checked (α : Type)
  | ok (a : α)
  | bad (issues : List Issue)
  deriving Repr

namespace Checked

variable {α β : Type}

/-- a check that only counts once another one has passed -/
def thenCheck (first : Checked Unit) (second : Checked α) : Checked α :=
  match first with
  | .ok () => second
  | .bad issues => .bad issues

def map (f : α → β) : Checked α → Checked β
  | .ok a => .ok (f a)
  | .bad issues => .bad issues

/-- two checks side by side -/
def both (f : Checked (α → β)) (x : Checked α) : Checked β :=
  match f, x with
  | .ok f, .ok a => .ok (f a)
  | .ok _, .bad issues => .bad issues
  | .bad issues, .ok _ => .bad issues
  | .bad issues, .bad more => .bad (issues ++ more)

instance : Applicative Checked where
  pure := .ok
  map := map
  seq f x := both f (x ())

/-- a check of what stands behind a key or a position -/
def inside (step : Text) : Checked α → Checked α
  | .ok a => .ok a
  | .bad issues => .bad (issues.map fun i => { i with place := step :: i.place })

/-- one issue with a value -/
def issue (fault : Fault) (input : Value) : Checked α := .bad [⟨[], fault, input⟩]

/-- all checks of a list side by side -/
def all : List (Checked α) → Checked (List α)
  | [] => .ok []
  | c :: cs => both (map List.cons c) (all cs)

end Checked

open Checked

/-! ## Single values -/

/-- a text, or octets of one -/
def text (v : Value) : Checked Text :=
  match v with
  | .text t => .ok t
  | .bytes s =>
    match Utf8.decode s with
    | .ok t => .ok t
    | .error _ => issue .notUnicode v
  | _ => issue .notText v

/-- the words that mean a truth value, in any case of their letters -/
def truths : List (Text × Bool) :=
  [("0", false), ("off", false), ("f", false), ("false", false), ("n", false), ("no", false),
    ("1", true), ("on", true), ("t", true), ("true", true), ("y", true), ("yes", true)]

/-- the truth value of a word -/
def boolOfWord (v : Value) (t : Text) : Checked Bool :=
  match truths.lookup (Text.toLower t) with
  | some b => .ok b
  | none => issue .unknownBool v

/-- the truth value of a number -/
def boolOfInt (v : Value) (n : Int) : Checked Bool :=
  if n = 0 then .ok false else if n = 1 then .ok true else issue .unknownBool v

/-- one more than the greatest machine word -/
def wordBound : Int := Int.pow 2 63

/-- whether an integer fits into a machine word -/
def isWord (n : Int) : Bool := -wordBound ≤ n && n < wordBound

/-- a truth value, or a word or number that means one -/
def bool (v : Value) : Checked Bool :=
  match v with
  | .bool b => .ok b
  | .text t => if Utf8.isEncodable t then boolOfWord v t else issue .notUnicode v
  | .bytes s =>
    match Utf8.decode s with
    | .ok t => boolOfWord v t
    | .error _ => issue .unknownBool v
  | .int n => if isWord n then boolOfInt v n else issue .notBool v
  | .float x =>
    match x.toInt? with
    | some n => if -wordBound < n ∧ n < wordBound then boolOfInt v n else issue .notBool v
    | none => issue .notBool v
  | _ => issue .notBool v

/-- what stands behind zeros and underscores that begin a number: the zeros themselves do not count, but one stays
in front of a point and at the end. `last` is the one before the rest -/
def behindZeros (last : CodePoint) : Text → Option Text
  | [] => some [last]
  | c :: r =>
    if c = '0' ∨ c = '_' then behindZeros c r
    else if c.isDigit ∨ c = '-' then some (c :: r)
    else if c = '.' then some (last :: c :: r)
    else none

/-- a number without the zeros that begin it, or none if it does not begin like a number -/
def withoutZeros : Text → Option Text
  | [] => none
  | c :: r => if c = '0' then behindZeros c r else if c.isDigit ∨ c = '-' then some (c :: r) else none

/-- a number without a point that only zeros follow -/
def withoutFraction (t : Text) : Text :=
  let whole := t.takeWhile (· != CodePoint.ofChar '.')
  let fraction := t.drop (whole.length + 1)
  if !fraction.isEmpty && fraction.all (· == CodePoint.ofChar '0') then whole else t

/-- a number without single underscores between its parts -/
def withoutUnderscores (t : Text) : Text :=
  let parts := Text.splitAt '_' t
  if parts.all (!·.isEmpty) then parts.flatten else t

/-- the spelling of an integer without what does not count in it -/
def plainInt (t : Text) : Option Text :=
  let u := t.trim
  match u with
  | c :: r =>
    if c = '+' then (if Text.startsWith r "-" then none else withoutZeros r) else withoutZeros u
  | [] => none

/-- the integer that a text spells -/
def intOfText (v : Value) (t : Text) : Checked Int :=
  match (plainInt t).map fun u => Numeral.signed (withoutUnderscores (withoutFraction u)) with
  | none => issue .unknownInt v
  | some (negative, digits) =>
    if digits.isEmpty || !digits.all CodePoint.isDigit then
      issue (if Json.digitLimit < (digits.takeWhile CodePoint.isDigit).length then .hugeInt else .unknownInt) v
    else
      let n : Int := if negative then -(Text.toNat digits : Int) else Text.toNat digits
      if isWord n || digits.length ≤ Json.digitLimit then .ok n else issue .hugeInt v

/-- an integer, or a number or text that is one -/
def int (v : Value) : Checked Int :=
  match v with
  | .int n => .ok n
  | .bool b => .ok (if b then 1 else 0)
  | .float x =>
    match x with
    | .finite _ _ =>
      match x.toInt? with
      | some n => if -wordBound < n ∧ n < wordBound then .ok n else issue .hugeInt v
      | none => issue .fractionalInt v
    | _ => issue .infiniteInt v
  | .text t => if Utf8.isEncodable t then intOfText v t else issue .notUnicode v
  | .bytes s =>
    match Utf8.decode s with
    | .ok t => intOfText v t
    | .error _ => issue .unknownInt v
  | _ => issue .notInt v

/-- nothing, or a value that passes a check -/
def optional {α : Type} (check : Value → Checked α) (v : Value) : Checked (Option α) :=
  match v with
  | .null => .ok none
  | v => map some (check v)

/-- one of some words -/
def wordOf {α : Type} (words : List (Text × α)) (v : Value) : Checked α :=
  let wrong : Checked α := issue (.notOneOf (words.map (·.1))) v
  match v with
  | .text t =>
    if Utf8.isEncodable t then
      match words.lookup t with
      | some a => .ok a
      | none => wrong
    else issue .notUnicode v
  | _ => wrong

/-! ## Containers -/

/-- the items of a list, a tuple or a set -/
def items? : Value → Option (List Value)
  | .list items | .tuple items | .set items => some items
  | _ => none

/-- a list whose items pass a check -/
def list {α : Type} (check : Value → Checked α) (v : Value) : Checked (List α) :=
  match items? v.seen with
  | some items => all (items.mapIdx fun i item => inside (Text.ofNat i) (check item))
  | none => issue .notList v

/-- the entries of a mapping -/
def entries? : Value → Option (List (Value × Value))
  | .map entries => some entries
  | _ => none

/-- a key as a step of a place: a surrogate alone shows as three replacement characters, and an integer with too many
digits is not shown -/
def step : Value → Text
  | .text t => t.flatMap fun c => if c.isSurrogate then [0xFFFD, 0xFFFD, 0xFFFD] else [c]
  | .bool b => if b then "1" else "0"
  | .int n => if Json.isLong n then "<unprintable int object>" else Text.ofInt n
  | v => v.quoted

/-- the step behind a key that is itself at fault -/
def keyStep : Text := "[key]"

/-- texts under texts; of two keys that are the same text the first keeps its place and the last its value -/
def insertText (entries : List (Text × Text)) (e : Text × Text) : List (Text × Text) :=
  if entries.any fun d => d.1 == e.1 then entries.map fun d => if d.1 == e.1 then e else d
  else entries ++ [e]

/-- a mapping from texts to texts -/
def textMap (v : Value) : Checked (List (Text × Text)) :=
  match entries? v.seen with
  | some entries =>
    map (List.foldl insertText []) <| all <| entries.map fun (k, w) =>
      both (map Prod.mk (inside (step k) (inside keyStep (text k)))) (inside (step k) (text w))
  | none => issue .notMapping v

/-! ## Records -/

/-- the value of a part of a record and the key it was found under: its other name, or else its name -/
def part? (entries : List (Value × Value)) (name : Text) (otherName : Option Text) : Option (Text × Value) :=
  let under (key : Text) : Option (Text × Value) := (Value.get? key entries).map (key, ·)
  match otherName with
  | some a => (under a).or (under name)
  | none => under name

/-- a part that must be there -/
def required {α : Type} (record : Value) (entries : List (Value × Value)) (name : Text) (otherName : Option Text)
    (check : Value → Checked α) : Checked α :=
  match part? entries name otherName with
  | some (key, v) => inside key (check v)
  | none => inside (otherName.getD name) (issue .missing record)

/-- a part with a default -/
def withDefault {α : Type} (entries : List (Value × Value)) (name : Text) (otherName : Option Text) (default : α)
    (check : Value → Checked α) : Checked α :=
  match part? entries name otherName with
  | some (key, v) => inside key (check v)
  | none => .ok default

/-- a record: a mapping whose entries are checked -/
def record {α : Type} (name : Text) (check : Value → List (Value × Value) → Checked α) (v : Value) : Checked α :=
  match entries? v.seen with
  | some entries => check v entries
  | none => issue (.notRecord name) v

/-- a mapping whose keys can all be read, or the first key that cannot -/
def readable (entries : List (Value × Value)) : Checked Unit :=
  match entries.find? fun e => match e.1 with
    | .text t => !Utf8.isEncodable t
    | _ => false with
  | some (key, _) => issue .notUnicode key
  | none => .ok ()

/-- no keys but the known ones -/
def onlyKeys (known : List Text) (entries : List (Value × Value)) : Checked Unit :=
  let extra := entries.filter fun e => match e.1 with
    | .text t => !known.contains t
    | _ => true
  map (fun _ => ()) (all (α := Unit) (extra.map fun e => inside (step e.1) (issue .unknownKey e.2)))

end Typings.Shape
