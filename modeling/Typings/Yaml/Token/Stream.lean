/-
The tokens of a text.

Whether a word is a key shows only at the colon behind it, so a token that may start a key is held back until a
colon, the end of its line or 1024 code points decide; the key token is then put in front of it. Outside brackets
the indentation opens and closes blocks: a deeper column opens one, a lower column closes all deeper ones.
`tokensOf` gives the tokens that are decided before the text goes wrong, and what is wrong then.
-/
import Typings.Yaml.Token.Scalar

namespace Typings.Yaml

/-- a token that may start a key -/
structure KeyStart where
  /-- the number of the token among all tokens -/
  number : Nat
  /-- whether it must be one, because it is the first word of a line in a block -/
  required : Bool
  place : Place
  deriving Repr

structure Lexer where
  cursor : Cursor
  /-- how many brackets are open -/
  flow : Int
  /-- tokens that are not handed on yet -/
  queue : List Token
  /-- how many tokens have been handed on -/
  taken : Nat
  /-- the column of the current block, -1 outside all blocks -/
  indent : Int
  /-- the columns of the blocks around it -/
  outer : List Int
  keyAllowed : Bool
  /-- the last possible key at each depth of brackets -/
  keys : List (Int × KeyStart)
  done : Bool

abbrev Lexing (α : Type) := StateT Lexer (Except (Stop TokenFault)) α

namespace Lexing

/-- a reading at the lexer's cursor -/
def read {α : Type} (r : Reading α) : Lexing α := do
  let s ← get
  let (a, c) ← liftM (r.run s.cursor)
  set { s with cursor := c }
  return a

def here : Lexing Place := return (← get).cursor.place

def peek (k : Nat) : Lexing CodePoint := return (← get).cursor.peek k

def push (t : Token) : Lexing Unit := modify fun s => { s with queue := s.queue ++ [t] }

def allowKey (b : Bool) : Lexing Unit := modify fun s => { s with keyAllowed := b }

/-- whether brackets are open -/
def inFlow : Lexing Bool := return (← get).flow ≠ 0

/-! ## Possible keys -/

def missingColon (k : KeyStart) : Lexing Unit := do
  throw (.problem (Problem.within "while scanning a simple key" k.place "could not find expected ':'" (← here)))

/-- how many code points a key may have before its colon -/
def keyReach : Nat := 1024

/-- forgets the keys that are too far back; one that is required is missed -/
def dropStaleKeys : Lexing Unit := do
  let place ← here
  let stale (k : KeyStart) : Bool := k.place.line != place.line || keyReach < place.index - k.place.index
  match (← get).keys.find? fun e => stale e.2 && e.2.required with
  | some e => missingColon e.2
  | none => modify fun s => { s with keys := s.keys.filter fun e => !stale e.2 }

/-- forgets the key at this depth; one that is required is missed -/
def dropKey : Lexing Unit := do
  let s ← get
  if let some k := s.keys.lookup s.flow then
    if k.required then missingColon k
  modify fun s => { s with keys := s.keys.filter fun e => e.1 != s.flow }

/-- notes that a key may start here -/
def noteKey : Lexing Unit := do
  let s ← get
  let place := s.cursor.place
  let required := s.flow = 0 ∧ s.indent = (place.column : Int)
  if s.keyAllowed then
    dropKey
    let k : KeyStart := ⟨s.taken + s.queue.length, required, place⟩
    modify fun s => { s with keys := s.keys ++ [(s.flow, k)] }

/-! ## Indentation -/

/-- closes the blocks that are deeper than a column -/
def closeBlocks (column : Int) : Lexing Unit := do
  let s ← get
  if s.flow ≠ 0 then return
  let deeper := (s.indent :: s.outer).takeWhile fun i => column < i
  let left := (s.indent :: s.outer).drop deeper.length
  let place := s.cursor.place
  let closing : Token := ⟨.blockEnd, place, place⟩
  set { s with
    queue := s.queue ++ deeper.map fun _ => closing
    indent := left.headD (-1)
    outer := left.drop 1 }

/-- opens a block at a column, unless the current one is as deep -/
def openBlock (column : Int) : Lexing Bool := do
  let s ← get
  if s.indent < column then
    set { s with indent := column, outer := s.indent :: s.outer }
    return true
  else return false

/-! ## Tokens -/

/-- a token of a number of code points -/
def indicator (kind : TokenKind) (length : Nat) : Lexing Unit := do
  let start ← here
  read (Reading.skip length)
  push ⟨kind, start, ← here⟩

/-- a problem at the cursor without a context -/
def fail {α : Type} (problem : Text) : Lexing α := do throw (.problem (Problem.bare problem (← here)))

/-- moves over spaces, comments and breaks; behind a break outside brackets a key may start -/
def skipToToken : Nat → Lexing Unit
  | 0 => return
  | fuel + 1 => do
    read (Reading.skipWhile isSpace)
    if (← peek 0) = CodePoint.ofChar '#' then read Reading.skipLine
    let b ← read Reading.lineBreak
    unless b.isEmpty do
      unless ← inFlow do allowKey true
      skipToToken fuel

def streamEnd : Lexing Unit := do
  closeBlocks (-1)
  dropKey
  let place ← here
  modify fun s => { s with keyAllowed := false, keys := [], done := true }
  push ⟨.streamEnd, place, place⟩

def directive : Lexing Unit := do
  closeBlocks (-1)
  dropKey
  allowKey false
  push (← read Reading.directive)

def documentIndicator (kind : TokenKind) : Lexing Unit := do
  closeBlocks (-1)
  dropKey
  allowKey false
  indicator kind 3

def flowStart (kind : TokenKind) : Lexing Unit := do
  noteKey
  modify fun s => { s with flow := s.flow + 1, keyAllowed := true }
  indicator kind 1

def flowEnd (kind : TokenKind) : Lexing Unit := do
  dropKey
  modify fun s => { s with flow := s.flow - 1, keyAllowed := false }
  indicator kind 1

def flowEntry : Lexing Unit := do
  allowKey true
  dropKey
  indicator .flowEntry 1

/-- opens a block of a kind at the cursor, if the cursor is deep enough and no brackets are open; `refusal` is
said where no new line has begun -/
def blockAtCursor (kind : TokenKind) (refusal : Text) : Lexing Unit := do
  unless ← inFlow do
    unless (← get).keyAllowed do fail refusal
    let place ← here
    if ← openBlock place.column then push ⟨kind, place, place⟩

def blockEntry : Lexing Unit := do
  blockAtCursor .blockSequenceStart "sequence entries are not allowed here"
  allowKey true
  dropKey
  indicator .blockEntry 1

def key : Lexing Unit := do
  blockAtCursor .blockMappingStart "mapping keys are not allowed here"
  allowKey (!(← inFlow))
  dropKey
  indicator .key 1

/-- a colon: behind a possible key it makes that one a key -/
def value : Lexing Unit := do
  let s ← get
  match s.keys.lookup s.flow with
  | some k =>
    let isNew ← if s.flow = 0 then openBlock k.place.column else pure false
    let opening : List Token := if isNew then [⟨.blockMappingStart, k.place, k.place⟩] else []
    modify fun s =>
      let (before, after) := s.queue.splitAt (k.number - s.taken)
      { s with
        queue := before ++ opening ++ ⟨.key, k.place, k.place⟩ :: after
        keys := s.keys.filter fun e => e.1 != s.flow
        keyAllowed := false }
  | none =>
    blockAtCursor .blockMappingStart "mapping values are not allowed here"
    allowKey (!(← inFlow))
    dropKey
  indicator .value 1

/-- a token that may start a key -/
def word (r : Reading Token) : Lexing Unit := do
  noteKey
  allowKey false
  push (← read r)

def blockScalar (folded : Bool) : Lexing Unit := do
  allowKey true
  dropKey
  let s ← get
  push (← read (Reading.blockScalar s.indent folded))

def plain : Lexing Unit := do
  noteKey
  allowKey false
  let s ← get
  let (t, keyMayFollow) ← read (Reading.plainScalar s.indent (s.flow ≠ 0))
  if let some b := keyMayFollow then allowKey b
  push t

/-- whether a plain scalar can start with these two code points -/
def startsPlain (inFlow : Bool) (c next : CodePoint) : Bool :=
  !(isBlankOrEnd c || isOneOf "-?:,[]\x7b\x7d#&*!|>'\"%@`" c)
    || (!isBlankOrEnd next && (c = '-' || (!inFlow && (c = '?' || c = ':'))))

/-- what is ahead, up to the next token or more of them -/
def fetch : Lexing Unit := do
  skipToToken (← read Reading.budget)
  dropStaleKeys
  let place ← here
  closeBlocks place.column
  let c ← peek 0
  let next ← peek 1
  let inFlow ← inFlow
  if c.val = 0 then streamEnd
  else if c = '%' && place.column = 0 then directive
  else if place.column = 0 && (← read (Reading.atThree '-')) then documentIndicator .documentStart
  else if place.column = 0 && (← read (Reading.atThree '.')) then documentIndicator .documentEnd
  else if c = '[' then flowStart .flowSequenceStart
  else if c = '{' then flowStart .flowMappingStart
  else if c = ']' then flowEnd .flowSequenceEnd
  else if c = '}' then flowEnd .flowMappingEnd
  else if c = ',' then flowEntry
  else if c = '-' && isBlankOrEnd next then blockEntry
  else if c = '?' && (inFlow || isBlankOrEnd next) then key
  else if c = ':' && (inFlow || isBlankOrEnd next) then value
  else if c = '*' then word (Reading.anchor true)
  else if c = '&' then word (Reading.anchor false)
  else if c = '!' then word Reading.tag
  else if c = '|' && !inFlow then blockScalar false
  else if c = '>' && !inFlow then blockScalar true
  else if c = '\'' || c = '"' then word (Reading.quotedScalar c)
  else if startsPlain inFlow c next then plain
  else
    throw (.problem ⟨some ("while scanning for the next token", none),
      "found character " ++ Text.quoted [c] ++ " that cannot start any token", place⟩)

/-- whether the first token in the queue waits for a colon -/
def waiting : Lexing Bool := do
  let s ← get
  return s.queue.isEmpty || s.keys.any fun e => e.2.number == s.taken

/-- brings the lexer to where a token can be handed on, if there is one -/
def prepare : Nat → Lexing Unit
  | 0 => return
  | fuel + 1 => do
    if (← get).done then return
    if !(← get).queue.isEmpty then dropStaleKeys
    if ← waiting then
      fetch
      prepare fuel

end Lexing

/-- the lexer before the first token; a byte order mark there is skipped -/
def Lexer.start (text : Text) : Lexer :=
  let cursor : Cursor := ⟨text, Place.start⟩
  { cursor := if cursor.peek 0 = 0xFEFF then cursor.advance 1 else cursor
    flow := 0
    queue := [⟨.streamStart, Place.start, Place.start⟩]
    taken := 0
    indent := -1
    outer := []
    keyAllowed := true
    keys := []
    done := false }

/-- the tokens from a state on -/
def Lexer.tokens (s : Lexer) : Nat → List Token × Option (Stop TokenFault)
  | 0 => ([], none)
  | fuel + 1 =>
    match (Lexing.prepare (s.cursor.rest.length + 2)).run s with
    | .error stop => ([], some stop)
    | .ok ((), s) =>
      match s.queue with
      | [] => ([], none)
      | t :: queue =>
        let (ts, stop) := Lexer.tokens { s with queue, taken := s.taken + 1 } fuel
        (t :: ts, stop)

/-- the tokens of a text that come before what is wrong with it -/
def tokensOf (text : Text) : List Token × Option (Stop TokenFault) :=
  (Lexer.start text).tokens (8 * text.length + 16)

end Typings.Yaml
