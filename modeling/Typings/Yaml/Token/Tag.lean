/-
Directives, anchors, aliases and tags: the tokens that are words behind an indicator.
-/
import Typings.Yaml.Cursor
import Typings.Yaml.Token

namespace Typings.Yaml.Reading

/-- what is said when letters or digits are missing -/
def expectedWord (found : CodePoint) : Text :=
  "expected alphabetic or numeric character, but found " ++ Text.quoted [found]

/-- a word, which must not be empty -/
def word (context : Text) (start : Place) : Reading Text := do
  let name ← takeWhile isWordChar
  if name.isEmpty then failWithin context start (expectedWord (← peek 0))
  return name

/-- an anchor or alias behind its indicator -/
def anchor (isAlias : Bool) : Reading Token := do
  let start ← here
  let context : Text := "while scanning an " ++ (if isAlias then ("alias" : Text) else "anchor")
  skip 1
  let name ← word context start
  let c ← peek 0
  unless isBlankOrEnd c || isOneOf "?:,]\x7d%@`" c do failWithin context start (expectedWord c)
  return ⟨if isAlias then .alias name else .anchor name, start, ← here⟩

/-! ## Tags -/

/-- octets written as escapes of two hexadecimal digits; `fuel` bounds their number -/
def escapedOctets (context : Text) (start : Place) : Nat → Reading Bytes
  | 0 => return []
  | fuel + 1 => do
    if (← peek 0) ≠ CodePoint.ofChar '%' then return []
    skip 1
    let wrong (found : CodePoint) : Text :=
      "expected URI escape sequence of 2 hexadecimal numbers, but found " ++ Text.quoted [found]
    let a ← peek 0
    let some high := a.hexValue? | failWithin context start (wrong a)
    let b ← peek 1
    let some low := b.hexValue? | failWithin context start (wrong b)
    skip 2
    return (16 * high + low).toUInt8 :: (← escapedOctets context start fuel)

/-- a code point that stands for itself in a tag -/
def isUriChar (c : CodePoint) : Bool := isWordChar c || isOneOf ";/?:@&=+$,.!~*'()[]" c

/-- the pieces of a tag, those written as escapes decoded -/
def uriPieces (context : Text) (start : Place) : Nat → Reading (List Text)
  | 0 => return []
  | fuel + 1 => do
    if (← peek 0) = CodePoint.ofChar '%' then
      let place ← here
      match Utf8.decode (← escapedOctets context start (← budget)) with
      | .ok t => return t :: (← uriPieces context start fuel)
      | .error e => throw (.problem (Problem.within context start e.message place))
    else
      let t ← takeWhile isUriChar
      if t.isEmpty then return []
      return t :: (← uriPieces context start fuel)

/-- the text of a tag behind its handle -/
def uri (name : Text) (start : Place) : Reading Text := do
  let pieces ← uriPieces ("while scanning a " ++ name) start (← budget)
  if pieces.isEmpty then
    failWithin ("while parsing a " ++ name) start ("expected URI, but found " ++ Text.quoted [← peek 0])
  return pieces.flatten

/-- a handle: one exclamation mark, or a word between two -/
def tagHandle (name : Text) (start : Place) : Reading Text := do
  let context : Text := "while scanning a " ++ name
  let wrong (found : CodePoint) : Text := "expected '!', but found " ++ Text.quoted [found]
  let c ← peek 0
  if c ≠ CodePoint.ofChar '!' then failWithin context start (wrong c)
  skip 1
  if (← peek 0).val = 32 then return "!"
  let inner ← takeWhile isWordChar
  let c ← peek 0
  if c ≠ CodePoint.ofChar '!' then failWithin context start (wrong c)
  skip 1
  return "!" ++ inner ++ "!"

/-- whether an exclamation mark stands between the indicator and the end of the word -/
def handleAhead : Reading Bool := do
  let word := ((← get).rest.drop 1).takeWhile fun c => !isSpaceOrEnd c
  return word.contains (CodePoint.ofChar '!')

/-- a tag: in full between angle brackets, the lone indicator, or a handle and a suffix -/
def tag : Reading Token := do
  let start ← here
  let c ← peek 1
  let kind ←
    if c = CodePoint.ofChar '<' then
      skip 2
      let suffix ← uri "tag" start
      let found ← peek 0
      if found ≠ CodePoint.ofChar '>' then
        failWithin "while parsing a tag" start ("expected '>', but found " ++ Text.quoted [found])
      skip 1
      pure (TokenKind.tag none suffix)
    else if isBlankOrEnd c then
      skip 1
      pure (TokenKind.tag none "!")
    else if ← handleAhead then
      let handle ← tagHandle "tag" start
      pure (TokenKind.tag (some handle) (← uri "tag" start))
    else
      skip 1
      pure (TokenKind.tag (some "!") (← uri "tag" start))
  let c ← peek 0
  unless isSpaceOrEnd c do
    failWithin "while scanning a tag" start ("expected ' ', but found " ++ Text.quoted [c])
  return ⟨kind, start, ← here⟩

/-! ## Directives -/

/-- the context of problems in a directive -/
def inDirective : Text := "while scanning a directive"

/-- what a directive expects at a place -/
def expected (what : Text) (found : CodePoint) : Text :=
  "expected " ++ what ++ ", but found " ++ Text.quoted [found]

/-- one number of a version -/
def versionNumber (start : Place) : Reading Nat := do
  let digits ← takeWhile CodePoint.isDigit
  if digits.isEmpty then failWithin inDirective start (expected "a digit" (← peek 0))
  if h : Json.digitLimit < digits.length then throw (.fault (.version digits.length h))
  return Text.toNat digits

/-- the value of a version directive -/
def version (start : Place) : Reading Directive := do
  skipWhile isSpace
  let major ← versionNumber start
  let c ← peek 0
  if c ≠ CodePoint.ofChar '.' then failWithin inDirective start (expected "a digit or '.'" c)
  skip 1
  let minor ← versionNumber start
  let c ← peek 0
  unless isSpaceOrEnd c do failWithin inDirective start (expected "a digit or ' '" c)
  return .version major minor

/-- the value of a directive that declares a handle -/
def handleDirective (start : Place) : Reading Directive := do
  skipWhile isSpace
  let handle ← tagHandle "directive" start
  let c ← peek 0
  if c.val ≠ 32 then failWithin inDirective start (expected "' '" c)
  skipWhile isSpace
  let tagStart ← uri "directive" start
  let c ← peek 0
  unless isSpaceOrEnd c do failWithin inDirective start (expected "' '" c)
  return .tagHandle handle tagStart

/-- the rest of a line: spaces, a comment and the break -/
def ignoredLine (context : Text) (start : Place) : Reading Unit := do
  skipWhile isSpace
  if (← peek 0) = CodePoint.ofChar '#' then skipLine
  let c ← peek 0
  unless isBreakOrEnd c do failWithin context start (expected "a comment or a line break" c)
  discard lineBreak

/-- a directive with its whole line -/
def directive : Reading Token := do
  let start ← here
  skip 1
  let name ← word inDirective start
  let c ← peek 0
  unless isSpaceOrEnd c do failWithin inDirective start (expectedWord c)
  let value ←
    if name = ("YAML" : Text) then version start
    else if name = ("TAG" : Text) then handleDirective start
    else pure .unknown
  let stop ← here
  if value = .unknown then skipLine
  ignoredLine inDirective start
  return ⟨.directive value, start, stop⟩

end Typings.Yaml.Reading
