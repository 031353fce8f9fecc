/-
Markup: tags in brackets that give looks to the text between them.

A tag is a bracket, a small letter or one of `#/@`, and what follows up to the next closing bracket with no other
bracket between. Backslashes before a tag are halved, and an odd one makes it text. Everything else shows as it
is, but a backslash before a bracket that opens no tag is dropped. A tag that begins with a slash closes the last open
tag of its look, or the last open tag of all if it names none; tags that are never closed reach to the end.
-/
import Typings.Console.Pictogram
import Typings.Console.Styled

namespace Typings.Markup

/-- whether a tag may begin with a code point -/
def beginsTag (c : CodePoint) : Bool := (0x61 ≤ c.val && c.val ≤ 0x7A) || c = '#' || c = '/' || c = '@'

/-- what follows a bracket up to the next one, cut at the bracket that closes it -/
def close? : Text → Option (Text × Text)
  | [] => none
  | c :: r => if c = ']' then some ([], r) else (close? r).map fun (content, rest) => (c :: content, rest)

/-- the tag that a bracket opens, by what follows the bracket up to the next one: its content and the rest -/
def tag? : Text → Option (Text × Text)
  | [] => none
  | c :: r => if beginsTag c then (close? r).map fun (content, rest) => (c :: content, rest) else none

/-- the backslashes at the end of a text -/
def trailing (t : Text) : Text := t.reverse.takeWhile fun c => c == CodePoint.ofChar '\\'

/-- a text without the backslashes at its end -/
def withoutTrailing (t : Text) : Text := (t.reverse.dropWhile fun c => c == CodePoint.ofChar '\\').reverse

/-! ## Escaping -/

/-- the pieces that opening brackets separate, put together with every tag made text -/
def escapePieces (previous : Text) : List Text → Text
  | [] => previous
  | piece :: rest =>
    previous ++ (if (tag? piece).isSome then trailing previous ++ "\\[" else "[") ++ escapePieces piece rest

/-- whether a lone backslash ends a text -/
def endsLone (t : Text) : Bool := Text.endsWith t "\\" && !Text.endsWith t "\\\\"

/-- a text whose tags are text, and whose last backslash cannot escape what is put after it -/
def escape (t : Text) : Text :=
  let escaped := match Text.splitAt '[' t with
    | [] => []
    | first :: rest => escapePieces first rest
  if endsLone escaped then escaped ++ "\\" else escaped

/-! ## Pieces -/

/-- a text without the backslashes before opening brackets -/
def unescapeBrackets : Text → Text
  | [] => []
  | [c] => [c]
  | c :: d :: r => if c = '\\' ∧ d = '[' then unescapeBrackets (d :: r) else c :: unescapeBrackets (d :: r)

/-- whether a code point is left out on a console: the bell, the backspace, and moves that are no new line -/
def isControl (c : CodePoint) : Bool := c.val == 7 || c.val == 8 || c.val == 11 || c.val == 12 || c.val == 13

/-- a piece of text that no tag interrupts -/
def showPlain (t : Text) : Text := (Pictogram.replace (unescapeBrackets t)).filter fun c => !isControl c

/-- a piece of a text with markup -/
inductive Piece
  /-- what shows -/
  | shown (t : Text)
  /-- what stands between the brackets of a tag, and the position of the tag -/
  | tag (content : Text) (position : Nat)
  deriving DecidableEq, Repr

/-- what a piece shows -/
def Piece.text : Piece → Text
  | .shown t => t
  | .tag _ _ => []

/-- the pieces of a text that opening brackets separate; `before` is the text since the last tag, and `position` that
of the next bracket -/
def piecesFrom (before : Text) (position : Nat) : List Text → List Piece
  | [] => [.shown (showPlain before)]
  | piece :: rest =>
    let next := position + 1 + piece.length
    match tag? piece with
    | none => piecesFrom (before ++ "[" ++ piece) next rest
    | some (content, after) =>
      let slashes := trailing before
      [.shown (showPlain (withoutTrailing before)), .shown (slashes.take (slashes.length / 2)),
        if slashes.length % 2 = 1 then .shown (showPlain ("[" ++ content ++ "]")) else .tag content position]
        ++ piecesFrom after next rest

/-- the pieces of a text with markup -/
def pieces (t : Text) : List Piece :=
  match Text.splitAt '[' t with
  | [] => []
  | first :: rest => piecesFrom first first.length rest

/-- what a text with markup shows, its looks left out -/
def plain (t : Text) : Text := (pieces t).flatMap Piece.text

/-! ## Looks -/

/-- why a text with markup has no looks -/
inductive Fault
  /-- a tag closes a look that no open tag has -/
  | unmatched (tag : Text) (position : Nat)
  /-- a tag closes the last open tag, but none is open -/
  | nothingOpen (position : Nat)
  deriving DecidableEq, Repr

def Fault.message : Fault → Text
  | .unmatched tag position =>
    "closing tag '[" ++ tag ++ "]' at position " ++ Text.ofNat position ++ " doesn't match any open tag"
  | .nothingOpen position => "closing tag '[/]' at position " ++ Text.ofNat position ++ " has nothing to close"

/-- an open tag -/
structure Opened where
  /-- where its look begins -/
  start : Nat
  /-- the look in its usual form -/
  name : Text
  /-- what stands behind an equals sign -/
  argument : Option Text

/-- what stands before and behind the first equals sign -/
def nameOf (content : Text) : Text × Option Text :=
  let name := content.takeWhile fun c => c != CodePoint.ofChar '='
  (name, if name.length = content.length then none else some (content.drop (name.length + 1)))

/-- the look of an open tag; one that begins with an at sign only means something to a program -/
def Opened.look (o : Opened) : Look :=
  if Text.startsWith o.name "@" then Look.plain
  else Look.ofText (match o.argument with
    | some a => o.name ++ " " ++ a
    | none => o.name)

/-- a text with markup as far as it is read -/
structure Reading where
  text : Text := []
  /-- the tag opened last is the first -/
  opened : List Opened := []
  /-- the span that ended last is the first -/
  spans : List Span := []

namespace Reading

/-- ends the look of an open tag -/
def close (r : Reading) (o : Opened) (rest : List Opened) : Reading :=
  { r with opened := rest, spans := ⟨o.start, r.text.length, o.look⟩ :: r.spans }

/-- the last open tag of a look, and the others -/
def take? (name : Text) : List Opened → Option (Opened × List Opened)
  | [] => none
  | o :: rest => if o.name = name then some (o, rest) else (take? name rest).map fun (p, more) => (p, o :: more)

/-- reads one piece -/
def step (r : Reading) : Piece → Except Fault Reading
  | .shown t => .ok { r with text := r.text ++ t }
  | .tag content position =>
    let (name, argument) := nameOf content
    match name with
    | c :: closed =>
      if c = '/' then
        let look := Text.trimBlanks closed
        if look.isEmpty then
          match r.opened with
          | o :: rest => .ok (r.close o rest)
          | [] => .error (.nothingOpen position)
        else match take? (Look.usual look) r.opened with
          | some (o, rest) => .ok (r.close o rest)
          | none => .error (.unmatched content position)
      else .ok { r with opened := ⟨r.text.length, Look.usual name, argument⟩ :: r.opened }
    | [] => .ok { r with opened := ⟨r.text.length, Look.usual name, argument⟩ :: r.opened }

/-- ends all looks -/
def finish (r : Reading) : Styled :=
  let r := r.opened.foldl (fun r o => r.close o []) r
  { text := r.text, spans := r.spans.mergeSort fun a b => a.start ≤ b.start }

end Reading

/-- a text with markup as a styled text -/
def read (t : Text) : Except Fault Styled := Reading.finish <$> (pieces t).foldlM Reading.step {}

end Typings.Markup
