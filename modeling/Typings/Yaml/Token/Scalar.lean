/-
Scalar tokens: plain, quoted and block text, with their lines folded.

A line break inside a plain or quoted scalar reads as a space, and a run of breaks as one break fewer. Block
scalars keep their breaks unless they are folded, and end as their chomping says.
-/
import Typings.Yaml.Token.Tag

namespace Typings.Yaml.Reading

/-! ## Block scalars -/

/-- what happens to the breaks at the end of a block scalar -/
inductive Chomping
  | strip
  | clip
  | keep
  deriving DecidableEq, Repr

/-- the context of problems in a block scalar -/
def inBlock : Text := "while scanning a block scalar"

/-- a chomping indicator, if one is ahead -/
def chomping : Reading (Option Chomping) := do
  let c ← peek 0
  if c = CodePoint.ofChar '+' then
    skip 1
    return some .keep
  else if c = CodePoint.ofChar '-' then
    skip 1
    return some .strip
  else return none

/-- an indentation indicator, if one is ahead -/
def increment (start : Place) : Reading (Option Nat) := do
  let c ← peek 0
  if !c.isDigit then return none
  if c.val = 0x30 then
    failWithin inBlock start "expected indentation indicator in the range 1-9, but found 0"
  skip 1
  return some (c.val - 0x30)

/-- the indicators of a block scalar, in either order -/
def blockIndicators (start : Place) : Reading (Chomping × Option Nat) := do
  let first ← chomping
  let indent ← increment start
  let chomp ← if first.isNone && indent.isSome then chomping else pure first
  let c ← peek 0
  unless isSpaceOrEnd c do
    failWithin inBlock start (expected "chomping or indentation indicators" c)
  return (chomp.getD .clip, indent)

/-- the column of the cursor -/
def column : Reading Nat := do return (← here).column

/-- moves over spaces up to a column -/
def indentTo (indent : Nat) : Reading Unit := do
  let spaces := ((← get).rest.takeWhile isSpace).length
  skip (min spaces (indent - (← column)))

/-- the empty lines before the first line of a block scalar, the greatest indentation among them and the place
behind them -/
def blockLead (breaks : Text) (indent : Nat) (stop : Place) : Nat → Reading (Text × Nat × Place)
  | 0 => return (breaks, indent, stop)
  | fuel + 1 => do
    let spaces ← takeWhile isSpace
    let reached ← column
    let indent := if spaces.isEmpty then indent else max indent reached
    if isBreak (← peek 0) then
      let b ← lineBreak
      blockLead (breaks ++ b) indent (← here) fuel
    else return (breaks, indent, stop)

/-- the empty lines between two lines of a block scalar, and the place behind them -/
def blockBreaks (indent : Nat) (breaks : Text) (stop : Place) : Nat → Reading (Text × Place)
  | 0 => return (breaks, stop)
  | fuel + 1 => do
    indentTo indent
    if isBreak (← peek 0) then
      let b ← lineBreak
      blockBreaks indent (breaks ++ b) (← here) fuel
    else return (breaks, stop)

/-- the lines of a block scalar: their text, the break of the last one, the breaks behind it and the place where
the scalar ends -/
def blockLines (folded : Bool) (indent : Nat) (lastBreak breaks : Text) (stop : Place) :
    Nat → Reading (Text × Text × Text × Place)
  | 0 => return ([], lastBreak, breaks, stop)
  | fuel + 1 => do
    if (← column) ≠ indent ∨ (← peek 0).val = 0 then return ([], lastBreak, breaks, stop)
    let spaced := isSpaceOrTab (← peek 0)
    let line ← takeWhile fun c => !isBreakOrEnd c
    let b ← lineBreak
    let (next, stop) ← blockBreaks indent [] (← here) fuel
    let c ← peek 0
    if (← column) = indent ∧ c.val ≠ 0 then
      let joint : Text :=
        if folded && b == [10] && !spaced && !isSpaceOrTab c then
          (if next.isEmpty then [32] else [])
        else b
      let (rest, lastBreak, after, stop) ← blockLines folded indent b next stop fuel
      return (breaks ++ line ++ joint ++ rest, lastBreak, after, stop)
    else return (breaks ++ line, b, next, stop)

/-- a block scalar below a parent's indentation -/
def blockScalar (parentIndent : Int) (folded : Bool) : Reading Token := do
  let start ← here
  skip 1
  let (chomp, increment) ← blockIndicators start
  ignoredLine inBlock start
  let least := (max (parentIndent + 1) 1).toNat
  let (indent, breaks, stop) ← match increment with
    | none => do
      let (breaks, deepest, stop) ← blockLead [] 0 (← here) (← budget)
      pure (max least deepest, breaks, stop)
    | some n => do
      let indent := least + n - 1
      let (breaks, stop) ← blockBreaks indent [] (← here) (← budget)
      pure (indent, breaks, stop)
  let (text, lastBreak, breaks, stop) ← blockLines folded indent [] breaks stop (← budget)
  let tail : Text := match chomp with
    | .strip => []
    | .clip => lastBreak
    | .keep => lastBreak ++ breaks
  return ⟨.scalar (text ++ tail) false, start, stop⟩

/-! ## Quoted scalars -/

/-- the context of problems in a quoted scalar, and in an escape of one -/
def inQuoted : Text := "while scanning a quoted scalar"
def inDoubleQuoted : Text := "while scanning a double-quoted scalar"

/-- what the escape letters stand for -/
def escapes : List (CodePoint × CodePoint) :=
  [('0', 0), ('a', 7), ('b', 8), ('t', 9), (9, 9), ('n', 10), ('v', 11), ('f', 12), ('r', 13), ('e', 27),
    (' ', 32), ('"', '"'), ('\\', '\\'), ('/', '/'), ('N', 0x85), ('_', 0xA0), ('L', 0x2028), ('P', 0x2029)]

/-- how many hexadecimal digits follow the letters of numbered escapes -/
def numberedEscapes : List (CodePoint × Nat) := [('x', 2), ('u', 4), ('U', 8)]

/-- the code point of a number, which may lie beyond the last one or beyond a machine word -/
def numbered (n : Nat) : Reading CodePoint :=
  match h : CodePoint.ofNat? n with
  | some c => pure c
  | none => throw (.fault (.escape n h))

/-- the code point of an escape with a number of hexadecimal digits -/
def numberedEscape (start : Place) (count : Nat) : Reading CodePoint := do
  let rest := (← get).rest
  let digits := rest.take count
  match (List.range count).find? fun k => (rest.getD k 0).hexValue?.isNone with
  | some k =>
    failWithin inDoubleQuoted start
      ("expected escape sequence of " ++ Text.ofNat count ++ " hexadecimal numbers, but found "
        ++ Text.quoted [rest.getD k 0])
  | none =>
    let c ← numbered ((Text.toNatBase? 16 digits).getD 0)
    skip count
    return c

/-- the breaks between two lines of a quoted scalar -/
def quotedBreaks (start : Place) : Nat → Reading Text
  | 0 => return []
  | fuel + 1 => do
    if ← atSeparator then failWithin inQuoted start "found unexpected document separator"
    skipWhile isSpaceOrTab
    let b ← lineBreak
    if b.isEmpty then return []
    return b ++ (← quotedBreaks start fuel)

/-- blanks inside a quoted scalar: kept inside a line, folded around a break -/
def quotedBlanks (start : Place) : Reading Text := do
  let blanks ← takeWhile isSpaceOrTab
  let c ← peek 0
  if c.val = 0 then failWithin inQuoted start "found unexpected end of stream"
  let b ← lineBreak
  if b.isEmpty then return blanks
  let breaks ← quotedBreaks start (← budget)
  if b ≠ [10] then return b ++ breaks
  return (if breaks.isEmpty then [32] else breaks)

/-- the code points of a quoted scalar up to a blank or its quote -/
def quotedWord (double : Bool) (start : Place) : Nat → Reading Text
  | 0 => return []
  | fuel + 1 => do
    let t ← takeWhile fun c => !(isBlankOrEnd c || isOneOf "'\"\\" c)
    let c ← peek 0
    if !double && c = '\'' && (← peek 1) = '\'' then
      skip 2
      return t ++ "'" ++ (← quotedWord double start fuel)
    else if (double && c = '\'') || (!double && (c = '"' || c = '\\')) then
      skip 1
      return t ++ [c] ++ (← quotedWord double start fuel)
    else if double && c = '\\' then
      skip 1
      let c ← peek 0
      if let some d := escapes.lookup c then
        skip 1
        return t ++ [d] ++ (← quotedWord double start fuel)
      else if let some count := numberedEscapes.lookup c then
        skip 1
        let d ← numberedEscape start count
        return t ++ [d] ++ (← quotedWord double start fuel)
      else if isBreak c then
        discard lineBreak
        let breaks ← quotedBreaks start (← budget)
        return t ++ breaks ++ (← quotedWord double start fuel)
      else failWithin inDoubleQuoted start ("found unknown escape character " ++ Text.quoted [c])
    else return t

/-- words and blanks up to the closing quote -/
def quotedRest (quote : CodePoint) (start : Place) : Nat → Reading Text
  | 0 => return []
  | fuel + 1 => do
    if (← peek 0) = quote then return []
    let blanks ← quotedBlanks start
    let t ← quotedWord (quote = '"') start (← budget)
    return blanks ++ t ++ (← quotedRest quote start fuel)

/-- a quoted scalar -/
def quotedScalar (quote : CodePoint) : Reading Token := do
  let start ← here
  skip 1
  let first ← quotedWord (quote = '"') start (← budget)
  let rest ← quotedRest quote start (← budget)
  skip 1
  return ⟨.scalar (first ++ rest) false, start, ← here⟩

/-! ## Plain scalars -/

/-- how much of a text a plain scalar takes before its next blank; `inFlow` tells whether brackets enclose it -/
def plainLength (inFlow : Bool) : Text → Nat
  | [] => 0
  | c :: r =>
    let next := r.headD 0
    if isBlankOrEnd c then 0
    else if c = ':' && (isBlankOrEnd next || (inFlow && isOneOf ",[]\x7b\x7d" next)) then 0
    else if inFlow && isOneOf ",?[]\x7b\x7d" c then 0
    else plainLength inFlow r + 1

/-- the breaks behind the first one in a plain scalar, or none where a document separator follows -/
def plainBreaks : Nat → Reading (Option Text)
  | 0 => return some []
  | fuel + 1 => do
    skipWhile isSpace
    let b ← lineBreak
    if b.isEmpty then return some []
    if ← atSeparator then return none
    return (← plainBreaks fuel).map (b ++ ·)

/-- blanks behind a word of a plain scalar, folded, and whether they hold a break -/
def plainBlanks : Reading (Text × Bool) := do
  let spaces ← takeWhile isSpace
  let b ← lineBreak
  if b.isEmpty then return (spaces, false)
  if ← atSeparator then return ([], true)
  match ← plainBreaks (← budget) with
  | none => return ([], true)
  | some breaks =>
    if b ≠ [10] then return (b ++ breaks, true)
    return (if breaks.isEmpty then [32] else breaks, true)

/-- what a plain scalar has given so far -/
structure PlainText where
  text : Text
  /-- where the last word ends -/
  stop : Place
  /-- whether a key may start behind the scalar, if the scalar says so -/
  keyMayFollow : Option Bool

/-- the words of a plain scalar -/
def plainWords (inFlow : Bool) (indent : Int) (spaces : Text) (done : PlainText) : Nat → Reading PlainText
  | 0 => return done
  | fuel + 1 => do
    if (← peek 0) = CodePoint.ofChar '#' then return done
    let length := plainLength inFlow (← get).rest
    if length = 0 then return done
    let word := (← get).rest.take length
    skip length
    let stop ← here
    let (blanks, broken) ← plainBlanks
    let done : PlainText := ⟨done.text ++ spaces ++ word, stop, some broken⟩
    if blanks.isEmpty || (← peek 0) = '#' || (!inFlow && decide (((← column) : Int) < indent)) then return done
    plainWords inFlow indent blanks done fuel

/-- a plain scalar, and whether a key may start behind it, if the scalar says so -/
def plainScalar (parentIndent : Int) (inFlow : Bool) : Reading (Token × Option Bool) := do
  let start ← here
  let done ← plainWords inFlow (parentIndent + 1) [] ⟨[], start, none⟩ (← budget)
  return (⟨.scalar done.text true, start, done.stop⟩, done.keyMayFollow)

end Typings.Yaml.Reading
