/-
Documents: the value of a node graph.

Containers are opened in the order in which they are met and filled one after the other, so of two faults the one
nearer to the root is reported; keys and other scalars are read at once. The entries behind a merge key come first
in their mapping. `Yaml.read` gives the value of a text.
-/
import Typings.Yaml.Node
import Typings.Yaml.Scalar

namespace Typings.Yaml

/-- what a node has become -/
inductive Built
  | scalar (v : Value)
  /-- a container that is not filled yet -/
  | opened
  | list (items : List NodeId)
  | map (entries : List (Value × NodeId))
  | set (keys : List Value)
  | pairs (items : List (NodeId × NodeId))
  deriving Inhabited

structure Builder where
  nodes : Graph
  built : List (NodeId × Built)
  /-- opened containers that wait to be filled -/
  waiting : List NodeId

abbrev Building (α : Type) := StateT Builder (Except (Stop Scalar.Refusal)) α

namespace Building

def nodeOf (id : NodeId) : Building Node := return (← get).nodes[id]?.getD default

def setBuilt (id : NodeId) (b : Built) : Building Unit :=
  modify fun s => { s with built := (id, b) :: s.built.filter (·.1 != id) }

def fail {α : Type} (problem : Text) (place : Place) : Building α :=
  throw (.problem (Problem.bare problem place))

def failWithin {α : Type} (context : Text) (start : Place) (problem : Text) (place : Place) : Building α :=
  throw (.problem (Problem.within context start problem place))

/-! ## Scalars -/

/-- the text of a scalar; a mapping gives the scalar under its value key -/
def textOf (id : NodeId) : Nat → Building Text
  | 0 => return []
  | fuel + 1 => do
    let node ← nodeOf id
    let wrong : Building Text := fail ("expected a scalar node, but found " ++ node.content.kind) node.place
    match node.content with
    | .scalar t => return t
    | .sequence _ => wrong
    | .mapping entries =>
      let s ← get
      match entries.find? fun e => (s.nodes[e.1]?.map Node.tag) = some Tag.value with
      | some e => textOf e.2 fuel
      | none => wrong

/-- the value of a scalar node, or none if its tag is one of a container -/
def scalarOf? (id : NodeId) : Building (Option Value) := do
  let node ← nodeOf id
  let text := textOf id (← get).nodes.size.succ
  let tag := node.tag
  if tag = Tag.binary then
    match Scalar.binary (← text) with
    | .ok octets => return some (.bytes octets)
    | .error problem => fail problem node.place
  else if Scalar.tags.contains tag then
    let t ← text
    if tag = Tag.timestamp && !node.content.isScalar then throw (.fault .mapping)
    match h : Scalar.spelled tag t with
    | .ok v => return some v
    | .error fault => throw (.fault (.spelling tag t fault h))
  else if [Tag.orderedMap, Tag.pairs, Tag.set, Tag.seq, Tag.map].contains tag then return none
  else fail ("could not determine a constructor for the tag " ++ tag.quoted) node.place

/-- reads a scalar, or opens a container; a key must not be one -/
def build (id : NodeId) : Building (Option Value) := do
  match (← get).built.lookup id with
  | some (.scalar v) => return some v
  | some _ => return none
  | none =>
    match ← scalarOf? id with
    | some v =>
      setBuilt id (.scalar v)
      return some v
    | none =>
      setBuilt id .opened
      modify fun s => { s with waiting := s.waiting ++ [id] }
      return none

/-! ## Containers -/

def setEntries (id : NodeId) (entries : List (NodeId × NodeId)) : Building Unit :=
  modify fun s => { s with nodes := s.nodes.modify id fun n => { n with content := .mapping entries } }

/-- the context of problems in a mapping -/
def inMapping : Text := "while constructing a mapping"

mutual

/-- puts the entries behind a mapping's merge keys in front of its own, and reads its value keys as texts -/
def flatten (id : NodeId) : Nat → Building Unit
  | 0 => return
  | fuel + 1 => do
    let merged ← mergeFrom id 0 fuel
    let node ← nodeOf id
    match node.content with
    | .mapping entries => unless merged.isEmpty do setEntries id (merged ++ entries)
    | _ => return

/-- the entries behind the merge keys of a mapping from an entry on; the merge keys are taken away -/
def mergeFrom (id : NodeId) (index : Nat) : Nat → Building (List (NodeId × NodeId))
  | 0 => return []
  | fuel + 1 => do
    let node ← nodeOf id
    let .mapping entries := node.content | return []
    let some (key, value) := entries[index]? | return []
    let tag := (← nodeOf key).tag
    if tag = Tag.merge then
      setEntries id (entries.eraseIdx index)
      let source ← nodeOf value
      let found : List (NodeId × NodeId) ← match source.content with
        | .mapping _ => do
          flatten value fuel
          entriesOf value
        | .sequence items => do
          let groups ← mergeAll node.place items fuel
          pure groups.reverse.flatten
        | .scalar _ =>
          failWithin inMapping node.place
            ("expected a mapping or list of mappings for merging, but found " ++ source.content.kind) source.place
      let more ← mergeFrom id index fuel
      return found ++ more
    else
      if tag = Tag.value then
        modify fun s => { s with nodes := s.nodes.modify key fun n => { n with tag := Tag.str } }
      mergeFrom id (index + 1) fuel

/-- the entries of each mapping in a list -/
def mergeAll (place : Place) : List NodeId → Nat → Building (List (List (NodeId × NodeId)))
  | _, 0 => return []
  | [], _ => return []
  | item :: items, fuel + 1 => do
    let node ← nodeOf item
    match node.content with
    | .mapping _ =>
      flatten item fuel
      let entries ← entriesOf item
      return entries :: (← mergeAll place items fuel)
    | _ =>
      failWithin inMapping place
        ("expected a mapping for merging, but found " ++ node.content.kind) node.place

/-- the entries of a mapping -/
def entriesOf (id : NodeId) : Building (List (NodeId × NodeId)) := do
  match (← nodeOf id).content with
  | .mapping entries => return entries
  | _ => return []

end

/-- how many steps merging can take in a graph -/
def mergeBudget : Building Nat := do
  let s ← get
  let entries := s.nodes.foldl (fun n node => match node.content with
    | .scalar _ => n + 1
    | .sequence items => n + items.length + 1
    | .mapping entries => n + entries.length + 1) 0
  return 4 * entries + 16

/-- a key of a mapping, and the node it is told apart by if it is no number: none stands for all nodes with the
word for it -/
structure Key where
  value : Value
  source : Option NodeId

/-- whether two keys are one: equal values are, and what is no number is only one with itself -/
def Key.same (a b : Key) : Bool :=
  match a.value, b.value with
  | .float .nan, .float .nan => a.source == b.source
  | v, w => v.sameKey w

/-- the key of a node with a value -/
def keyOf (id : NodeId) (v : Value) : Building Key := do
  match v with
  | .float .nan =>
    let t ← textOf id (← get).nodes.size.succ
    return ⟨v, if Scalar.isNanWord t then none else some id⟩
  | _ => return ⟨v, some id⟩

/-- puts an entry into a mapping: a known key keeps its place and takes the new value -/
def insert {α : Type} (entries : List (Key × α)) (key : Key) (value : α) : List (Key × α) :=
  if entries.any fun e => e.1.same key then
    entries.map fun e => if e.1.same key then (e.1, value) else e
  else entries ++ [(key, value)]

/-- the entries of a mapping node, keys read and values opened -/
def mappingOf (id : NodeId) : Building (List (Value × NodeId)) := do
  let node ← nodeOf id
  let .mapping _ := node.content
    | fail ("expected a mapping node, but found " ++ node.content.kind) node.place
  flatten id (← mergeBudget)
  let entries ← (← entriesOf id).foldlM (fun done (key, value) => do
    match ← build key with
    | none => failWithin inMapping node.place "found unhashable key" (← nodeOf key).place
    | some k =>
      discard (build value)
      return insert done (← keyOf key k) value) []
  return entries.map fun e => (e.1.value, e.2)

/-- the items of a sequence node, each opened -/
def sequenceOf (id : NodeId) : Building (List NodeId) := do
  let node ← nodeOf id
  let .sequence items := node.content
    | fail ("expected a sequence node, but found " ++ node.content.kind) node.place
  for item in items do discard (build item)
  return items

/-- the pairs of a sequence of mappings with one entry each -/
def pairsOf (context : Text) (id : NodeId) : Building (List (NodeId × NodeId)) := do
  let node ← nodeOf id
  let .sequence items := node.content
    | failWithin context node.place ("expected a sequence, but found " ++ node.content.kind) node.place
  items.mapM fun item => do
    let sub ← nodeOf item
    match sub.content with
    | .mapping [(key, value)] =>
      discard (build key)
      discard (build value)
      return (key, value)
    | .mapping entries =>
      failWithin context node.place
        ("expected a single mapping item, but found " ++ Text.ofNat entries.length ++ " items") sub.place
    | content =>
      failWithin context node.place ("expected a mapping of length 1, but found " ++ content.kind) sub.place

/-- fills an opened container -/
def fill (id : NodeId) : Building Unit := do
  let tag := (← nodeOf id).tag
  let b ←
    if tag = Tag.seq then Built.list <$> sequenceOf id
    else if tag = Tag.map then Built.map <$> mappingOf id
    else if tag = Tag.set then (fun es => Built.set (es.map (·.1))) <$> mappingOf id
    else if tag = Tag.orderedMap then Built.pairs <$> pairsOf "while constructing an ordered map" id
    else Built.pairs <$> pairsOf "while constructing pairs" id
  setBuilt id b

/-- fills all opened containers, those opened first before the others -/
def fillAll : Nat → Building Unit
  | 0 => return
  | fuel + 1 => do
    match (← get).waiting with
    | [] => return
    | id :: rest =>
      modify fun s => { s with waiting := rest }
      fill id
      fillAll fuel

end Building

/-! ## Values -/

/-- a container's kind without what it holds -/
def Built.hollow : Built → Value
  | .scalar v => v
  | .map _ => .map []
  | .set _ => .set []
  | _ => .list []

/-- the value of a node below certain others. A container below itself is marked, and holds a copy of what it holds
there as long as `turns` are left -/
def valueOf (built : List (NodeId × Built)) (above : List NodeId) (turns : Nat) (id : NodeId) : Nat → Value
  | 0 => .null
  | fuel + 1 =>
    match built.lookup id with
    | none => .null
    | some (.scalar v) => v
    | some b =>
      let inner (above : List NodeId) (turns : Nat) : Value :=
        let go (child : NodeId) : Value := valueOf built (id :: above) turns child fuel
        match b with
        | .list items => .list (items.map go)
        | .map entries => .map (entries.map fun e => (e.1, go e.2))
        | .set keys => .set keys
        | .pairs items => .list (items.map fun p => .tuple [go p.1, go p.2])
        | _ => .null
      if above.contains id then
        match turns with
        | 0 => .again b.hollow
        | turns + 1 => .again (inner [] turns)
      else inner above turns

/-- how often a container below itself is copied. The deepest shape of a descriptor is a mapping, a list, a mapping
and a mapping of texts, so no way down it can meet its start more than twice -/
def copies : Nat := 2

/-- what may be wrong with a text beyond its grammar -/
inductive Fault
  | token (f : TokenFault)
  | scalar (r : Scalar.Refusal)
  deriving DecidableEq, Repr

def Fault.crash : Fault → Crash
  | .token f => f.crash
  | .scalar r => r.crash

/-- why a text has no value -/
inductive Failure
  /-- a code point that no text may hold, and its position -/
  | unprintable (c : CodePoint) (position : Nat)
  | malformed (p : Problem)
  | fault (f : Fault)
  deriving DecidableEq, Repr

/-- what is wrong, in words; `text` is what was read -/
def Failure.message (text : Text) : Failure → Text
  | .unprintable c position =>
    "unacceptable character #x" ++ Text.hex 4 c.val ++ ": special characters are not allowed\n"
      ++ "  in \"<unicode string>\", position " ++ Text.ofNat position
  | .malformed p => p.message text
  | .fault f => f.crash.message

/-- what a stop says of the whole text -/
def Stop.failure {F : Type} (toFault : F → Fault) : Stop F → Failure
  | .problem p => .malformed p
  | .fault f => .fault (toFault f)

/-- whether a text may hold a code point -/
def isAllowed (c : CodePoint) : Bool :=
  let n := c.val
  n == 9 || n == 10 || n == 13 || (0x20 ≤ n && n ≤ 0x7E) || n == 0x85 || (0xA0 ≤ n && n ≤ 0xD7FF)
    || (0xE000 ≤ n && n ≤ 0xFFFD) || 0x10000 ≤ n

/-- the value of a document's root -/
def valueOfRoot (nodes : Graph) (root : NodeId) : Except (Stop Scalar.Refusal) Value := do
  let run : Building Unit := do
    discard (Building.build root)
    Building.fillAll (nodes.size + 1)
  let ((), s) ← run.run ⟨nodes, [], []⟩
  return valueOf s.built [] copies root ((copies + 1) * (nodes.size + 2))

/-- the value of a YAML text; a text without a document is null -/
def read (text : Text) : Except Failure Value :=
  match text.findIdx? fun c => !isAllowed c with
  | some position => .error (.unprintable (text.getD position 0) position)
  | none => do
    let (nodes, root) ← (Graph.ofText text).mapError (Stop.failure .token)
    match root with
    | none => return .null
    | some root => (valueOfRoot nodes root).mapError (Stop.failure .scalar)

end Typings.Yaml
