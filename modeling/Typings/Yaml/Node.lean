/-
The node graph of a text.

A node has a tag, a place and a content; sequences and mappings hold the numbers of their nodes, so an alias is the
number of the node it stands for, and a node may hold itself. `Graph.ofText` reads the one document of a text.
-/
import Typings.Yaml.Tag
import Typings.Yaml.Token.Stream

namespace Typings.Yaml

/-- the number of a node in its graph -/
abbrev NodeId := Nat

inductive Content
  | scalar (text : Text)
  | sequence (items : List NodeId)
  | mapping (entries : List (NodeId × NodeId))
  deriving Repr, Inhabited

/-- a content's kind, as problems name it -/
def Content.kind : Content → Text
  | .scalar _ => "scalar"
  | .sequence _ => "sequence"
  | .mapping _ => "mapping"

def Content.isScalar : Content → Bool
  | .scalar _ => true
  | _ => false

structure Node where
  tag : Text
  content : Content
  place : Place
  deriving Repr, Inhabited

abbrev Graph := Array Node

/-- what is known while tokens become nodes -/
structure Composer where
  tokens : List Token
  /-- what is wrong behind the tokens -/
  stop : Option (Stop TokenFault)
  nodes : Graph
  anchors : List (Text × NodeId)
  handles : List (Text × Text)

abbrev Composing (α : Type) := StateT Composer (Except (Stop TokenFault)) α

namespace Composing

/-! ## Tokens -/

/-- the next token; where there is none, what is wrong with the text -/
def peek : Composing Token := do
  let s ← get
  match s.tokens with
  | t :: _ => return t
  | [] =>
    match s.stop with
    | some stop => throw stop
    | none => return ⟨.streamEnd, Place.start, Place.start⟩

/-- whether the next token is of one of some kinds -/
def nextIs (kinds : List TokenKind) : Composing Bool := return kinds.contains (← peek).kind

/-- the next token, taken away -/
def next : Composing Token := do
  let t ← peek
  modify fun s => { s with tokens := s.tokens.drop 1 }
  return t

/-- whether the next token is a directive -/
def nextIsDirective : Composing Bool := do
  match (← peek).kind with
  | .directive _ => return true
  | _ => return false

def fail {α : Type} (problem : Text) (place : Place) : Composing α :=
  throw (.problem (Problem.bare problem place))

def failWithin {α : Type} (context : Text) (start : Place) (problem : Text) (place : Place) : Composing α :=
  throw (.problem (Problem.within context start problem place))

/-! ## Nodes -/

/-- adds a node to the graph -/
def add (node : Node) : Composing NodeId := do
  let s ← get
  set { s with nodes := s.nodes.push node }
  return s.nodes.size

/-- gives a node its content -/
def fill (id : NodeId) (content : Content) : Composing Unit :=
  modify fun s => { s with nodes := s.nodes.modify id fun n => { n with content } }

/-- the properties in front of a node's content -/
structure Properties where
  anchor : Option Text
  tag : Option Text
  /-- where the properties start and stop, if there are any -/
  span : Option (Place × Place)

/-- the node that an alias names -/
def aliased (name : Text) (place : Place) : Composing NodeId := do
  match (← get).anchors.lookup name with
  | some id => return id
  | none => fail ("found undefined alias " ++ name.quoted) place

/-- an anchor must be new -/
def checkAnchor (anchor : Option Text) (place : Place) : Composing Unit := do
  let some name := anchor | return
  let s ← get
  let some id := s.anchors.lookup name | return
  failWithin ("found duplicate anchor " ++ name.quoted ++ "; first occurrence")
    (s.nodes[id]?.map Node.place |>.getD Place.start) "second occurrence" place

/-- notes the node of an anchor -/
def note (anchor : Option Text) (id : NodeId) : Composing Unit := do
  if let some name := anchor then
    modify fun s => { s with anchors := (name, id) :: s.anchors }

/-- a new node with the anchor of its properties -/
def start (anchor : Option Text) (node : Node) : Composing NodeId := do
  checkAnchor anchor node.place
  let id ← add node
  note anchor id
  return id

/-- an explicit tag that says something -/
def specific (tag : Option Text) : Option Text := if tag = some Tag.unspecific then none else tag

/-- a scalar without text and properties -/
def emptyScalar (place : Place) : Composing NodeId :=
  add ⟨Spelling.tagOf [], .scalar [], place⟩

/-- the prefix that a handle stands for -/
def resolveHandle (handle suffix : Text) (start place : Place) : Composing Text := do
  match (← get).handles.lookup handle with
  | some tagStart => return tagStart ++ suffix
  | none => failWithin "while parsing a node" start ("found undefined tag handle " ++ handle.quoted) place

/-- an anchor and a tag in either order -/
def properties : Composing Properties := do
  let first ← peek
  match first.kind with
  | .anchor name =>
    discard next
    let second ← peek
    match second.kind with
    | .tag handle suffix =>
      discard next
      let tag ← full handle suffix first.start second.start
      return ⟨some name, some tag, some (first.start, second.stop)⟩
    | _ => return ⟨some name, none, some (first.start, first.stop)⟩
  | .tag handle suffix =>
    discard next
    let second ← peek
    match second.kind with
    | .anchor name =>
      discard next
      let tag ← full handle suffix first.start first.start
      return ⟨some name, some tag, some (first.start, second.stop)⟩
    | _ =>
      let tag ← full handle suffix first.start first.start
      return ⟨none, some tag, some (first.start, first.stop)⟩
  | _ => return ⟨none, none, none⟩
where
  full (handle : Option Text) (suffix : Text) (start place : Place) : Composing Text :=
    match handle with
    | some handle => resolveHandle handle suffix start place
    | none => pure suffix

/-- what blocks of entries end with -/
def blockFailure (what : Text) (start : Place) (t : Token) : Composing Unit :=
  failWithin ("while parsing a block " ++ what) start
    ("expected <block end>, but found " ++ t.kind.name.quoted) t.start

/-- what entries between brackets go on or end with -/
def flowFailure (what closing : Text) (start : Place) (t : Token) : Composing Unit :=
  failWithin ("while parsing a flow " ++ what) start
    ("expected ',' or '" ++ closing ++ "', but got " ++ t.kind.name.quoted) t.start

/-- where a node may stand -/
inductive Position
  /-- a block collection may follow -/
  | block
  /-- a block collection may follow, also entries that are not indented -/
  | blockOrEntries
  /-- between brackets -/
  | flow
  deriving DecidableEq

mutual

/-- one node; `fuel` bounds the number of steps -/
def node (position : Position) : Nat → Composing NodeId
  | 0 => return 0
  | fuel + 1 => do
    let t ← peek
    if let .alias name := t.kind then
      discard next
      return ← aliased name t.start
    let p ← properties
    let t ← peek
    let place := p.span.elim t.start (·.1)
    let collection (tag : Text) (content : Content) : Composing NodeId :=
      start p.anchor ⟨(specific p.tag).getD tag, content, place⟩
    let isBlock := position ≠ .flow
    if position = .blockOrEntries ∧ t.kind = .blockEntry then
      let id ← collection Tag.seq (.sequence [])
      fill id (.sequence (← looseEntries fuel))
      return id
    match t.kind with
    | .scalar text plain =>
      discard next
      let tag :=
        if p.tag = some Tag.unspecific ∨ (plain ∧ p.tag = none) then Spelling.tagOf text
        else p.tag.getD Tag.str
      start p.anchor ⟨tag, .scalar text, place⟩
    | .flowSequenceStart =>
      let id ← collection Tag.seq (.sequence [])
      discard next
      fill id (.sequence (← flowItems t.start true fuel))
      return id
    | .flowMappingStart =>
      let id ← collection Tag.map (.mapping [])
      discard next
      fill id (.mapping (← flowEntries t.start true fuel))
      return id
    | kind =>
      if isBlock ∧ kind = .blockSequenceStart then
        let id ← collection Tag.seq (.sequence [])
        discard next
        fill id (.sequence (← blockItems t.start fuel))
        return id
      else if isBlock ∧ kind = .blockMappingStart then
        let id ← collection Tag.map (.mapping [])
        discard next
        fill id (.mapping (← blockEntries t.start fuel))
        return id
      else if p.span.isSome then
        start p.anchor ⟨(specific p.tag).getD (Spelling.tagOf []), .scalar [], place⟩
      else
        failWithin ("while parsing a " ++ (if isBlock then ("block" : Text) else "flow") ++ " node") place
          ("expected the node content, but found " ++ kind.name.quoted) t.start

/-- a node, or an empty scalar at a place if one of some tokens is next -/
def nodeUnless (ends : List TokenKind) (position : Position) (place : Place) : Nat → Composing NodeId
  | 0 => return 0
  | fuel + 1 => do
    if ← nextIs ends then emptyScalar place else node position fuel

/-- the items of a block sequence up to its end -/
def blockItems (start : Place) : Nat → Composing (List NodeId)
  | 0 => return []
  | fuel + 1 => do
    if ← nextIs [.blockEntry] then
      let dash ← next
      let id ← nodeUnless [.blockEntry, .blockEnd] .block dash.stop fuel
      return id :: (← blockItems start fuel)
    else
      unless ← nextIs [.blockEnd] do blockFailure "collection" start (← peek)
      discard next
      return []

/-- the items of a sequence that is not indented -/
def looseEntries : Nat → Composing (List NodeId)
  | 0 => return []
  | fuel + 1 => do
    if ← nextIs [.blockEntry] then
      let dash ← next
      let id ← nodeUnless [.blockEntry, .key, .value, .blockEnd] .block dash.stop fuel
      return id :: (← looseEntries fuel)
    else
      discard peek
      return []

/-- the entries of a block mapping up to its end -/
def blockEntries (start : Place) : Nat → Composing (List (NodeId × NodeId))
  | 0 => return []
  | fuel + 1 => do
    let ends : List TokenKind := [.key, .value, .blockEnd]
    if ← nextIs [.key] then
      let mark ← next
      let key ← nodeUnless ends .blockOrEntries mark.stop fuel
      let value ← blockValue fuel
      return (key, value) :: (← blockEntries start fuel)
    else
      unless ← nextIs [.blockEnd] do blockFailure "mapping" start (← peek)
      discard next
      return []

/-- the value of an entry of a block mapping -/
def blockValue : Nat → Composing NodeId
  | 0 => return 0
  | fuel + 1 => do
    if ← nextIs [.value] then
      let mark ← next
      nodeUnless [.key, .value, .blockEnd] .blockOrEntries mark.stop fuel
    else emptyScalar (← peek).start

/-- the items of a flow sequence up to its bracket -/
def flowItems (start : Place) (first : Bool) : Nat → Composing (List NodeId)
  | 0 => return []
  | fuel + 1 => do
    if ← nextIs [.flowSequenceEnd] then
      discard next
      return []
    if !first then
      if ← nextIs [.flowEntry] then discard next
      else flowFailure "sequence" "]" start (← peek)
    if ← nextIs [.key] then
      let mark ← peek
      let id ← add ⟨Tag.map, .mapping [], mark.start⟩
      discard next
      let key ← nodeUnless [.value, .flowEntry, .flowSequenceEnd] .flow mark.stop fuel
      let value ← flowValue [.flowEntry, .flowSequenceEnd] fuel
      discard peek
      fill id (.mapping [(key, value)])
      return id :: (← flowItems start false fuel)
    else if ← nextIs [.flowSequenceEnd] then
      discard next
      return []
    else
      let id ← node .flow fuel
      return id :: (← flowItems start false fuel)

/-- the value behind a key between brackets -/
def flowValue (ends : List TokenKind) : Nat → Composing NodeId
  | 0 => return 0
  | fuel + 1 => do
    if ← nextIs [.value] then
      let mark ← next
      nodeUnless ends .flow mark.stop fuel
    else emptyScalar (← peek).start

/-- the entries of a flow mapping up to its brace -/
def flowEntries (start : Place) (first : Bool) : Nat → Composing (List (NodeId × NodeId))
  | 0 => return []
  | fuel + 1 => do
    if ← nextIs [.flowMappingEnd] then
      discard next
      return []
    if !first then
      if ← nextIs [.flowEntry] then discard next
      else flowFailure "mapping" "\x7d" start (← peek)
    if ← nextIs [.key] then
      let mark ← next
      let key ← nodeUnless [.value, .flowEntry, .flowMappingEnd] .flow mark.stop fuel
      let value ← flowValue [.flowEntry, .flowMappingEnd] fuel
      return (key, value) :: (← flowEntries start false fuel)
    else if ← nextIs [.flowMappingEnd] then
      discard next
      return []
    else
      let key ← node .flow fuel
      let value ← emptyScalar (← peek).start
      return (key, value) :: (← flowEntries start false fuel)

end

/-! ## Documents -/

/-- the handles that every document knows -/
def commonHandles : List (Text × Text) := [("!", "!"), ("!!", "tag:yaml.org,2002:")]

/-- the directives of a document: whether a version was given, and the handles -/
def directives (versioned : Bool) (handles : List (Text × Text)) : Nat → Composing (List (Text × Text))
  | 0 => return handles
  | fuel + 1 => do
    let t ← peek
    match t.kind with
    | .directive (.version major _) =>
      discard next
      if versioned then fail "found duplicate YAML directive" t.start
      if major ≠ 1 then fail "found incompatible YAML document (version 1.* is required)" t.start
      directives true handles fuel
    | .directive (.tagHandle handle tagStart) =>
      discard next
      if (handles.lookup handle).isSome then fail ("duplicate tag handle " ++ handle.quoted) t.start
      directives versioned (handles ++ [(handle, tagStart)]) fuel
    | .directive .unknown =>
      discard next
      directives versioned handles fuel
    | _ => return handles

/-- takes away markers of document ends -/
def skipDocumentEnds : Nat → Composing Unit
  | 0 => return
  | fuel + 1 => do
    if ← nextIs [.documentEnd] then
      discard next
      skipDocumentEnds fuel

/-- the start of an explicit document, or none at the end of the text -/
def documentStart (fuel : Nat) : Composing (Option Place) := do
  skipDocumentEnds fuel
  if ← nextIs [.streamEnd] then return none
  let place := (← peek).start
  let handles ← directives false [] fuel
  modify fun s => { s with handles := handles ++ commonHandles }
  unless ← nextIs [.documentStart] do
    let t ← peek
    fail ("expected '<document start>', but found " ++ t.kind.name.quoted) t.start
  discard next
  return some place

/-- the root of the first document, if there is one -/
def root (fuel : Nat) : Composing (Option NodeId) := do
  discard next
  if !(← nextIsDirective) && !(← nextIs [.documentStart, .streamEnd]) then
    modify fun s => { s with handles := commonHandles }
    some <$> node .block fuel
  else
    match ← documentStart fuel with
    | none => return none
    | some _ =>
      let t ← peek
      if (← nextIsDirective) || (← nextIs [.documentStart, .documentEnd, .streamEnd]) then
        some <$> emptyScalar t.start
      else some <$> node .block fuel

/-- the one document of a text -/
def document (fuel : Nat) : Composing (Option NodeId) := do
  let some id ← root fuel | return none
  let place := ((← get).nodes[id]?.map Node.place).getD Place.start
  if ← nextIs [.documentEnd] then discard next
  match ← documentStart fuel with
  | none => return some id
  | some second =>
    failWithin "expected a single document in the stream" place "but found another document" second

end Composing

/-- the nodes of a text and its root, if the text holds a document -/
def Graph.ofText (text : Text) : Except (Stop TokenFault) (Graph × Option NodeId) := do
  let (tokens, stop) := tokensOf text
  let (root, s) ← (Composing.document (4 * tokens.length + 16)).run ⟨tokens, stop, #[], [], []⟩
  return (s.nodes, root)

end Typings.Yaml
