/-
Styled text: a text with looks on parts of it.

A look lies on a span of positions, and a span that comes later lies over those before it. Dividing a text divides
its spans; spans that nothing is left of are dropped. On a terminal each run between two ends of spans is told on its
own.
-/
import Typings.Console.Look
import Typings.Console.Wrap

namespace Typings

/-- the positions from `start` up to `stop` have a look -/
structure Span where
  start : Nat
  stop : Nat
  look : Look
  deriving DecidableEq, Repr

/-- a text, a look under the whole of it if it has one, and looks on its parts -/
structure Styled where
  text : Text
  base : Option Look := none
  spans : List Span := []
  deriving DecidableEq, Repr

/-- what becomes of a line that is too wide for its place -/
inductive Overflow
  /-- words are divided -/
  | fold
  /-- the line is cut, and dots tell that -/
  | ellipsis
  deriving DecidableEq, Repr

namespace Span

/-- a span further on -/
def move (n : Nat) (s : Span) : Span := { s with start := s.start + n, stop := s.stop + n }

/-- the part of a span before a position, if the span begins there -/
def before? (n : Nat) (s : Span) : Option Span :=
  if s.start < n then some { s with stop := min s.stop n } else none

/-- the part of a span between two positions, counted from the first -/
def between? (a b : Nat) (s : Span) : Option Span :=
  let (start, stop) := (max s.start a, min s.stop b)
  if start < stop then some ⟨start - a, stop - a, s.look⟩ else none

end Span

namespace Styled

/-- the part between two positions -/
def slice (s : Styled) (a b : Nat) : Styled :=
  ⟨(s.text.drop a).take (b - a), s.base, s.spans.filterMap (Span.between? a b)⟩

/-- the parts from a position on that some further positions divide -/
def partsFrom (s : Styled) (a : Nat) : List Nat → List Styled
  | [] => [s.slice a s.text.length]
  | b :: rest => s.slice a b :: partsFrom s b rest

/-- the parts that some positions divide -/
def divide (s : Styled) (positions : List Nat) : List Styled :=
  if positions.isEmpty then [s] else s.partsFrom 0 positions

/-- the first code points -/
def crop (n : Nat) (s : Styled) : Styled := ⟨s.text.take n, s.base, s.spans.filterMap (Span.before? n)⟩

/-- the base as the first of the spans -/
def layered (s : Styled) : List Span :=
  match s.base with
  | some look => ⟨0, s.text.length, look⟩ :: s.spans
  | none => s.spans

/-! ## Lines -/

/-- the positions behind which a code point stands -/
def positionsOf (c : CodePoint) (t : Text) : List Nat :=
  (t.zipIdx.filter fun e => e.1 = c).map (·.2)

/-- the lines of a text -/
def lines (s : Styled) : List Styled :=
  let ends := positionsOf 10 s.text
  if ends.isEmpty then [s]
  else
    let starts := 0 :: ends.map (· + 1)
    (starts.zip (ends ++ [s.text.length])).map fun (a, b) => s.slice a b

/-- the distance between tab stops -/
def tabStop : Nat := 8

/-- a part that a tab ends, with blanks up to the next stop instead; spans that reach its end grow with it -/
def expandTab (column : Nat) (part : Styled) : Styled :=
  if part.text.getLast? = some 9 then
    let blank := part.text.dropLast ++ " "
    let reached := (column + Text.cells blank) % tabStop
    let more := if reached = 0 then 0 else tabStop - reached
    ⟨blank ++ Text.spaces more, part.base,
      part.spans.map fun p => if part.text.length ≤ p.stop then { p with stop := p.stop + more } else p⟩
  else part

/-- parts put together, with blanks for tabs; the base lies on each part anew -/
def joinTabs (column offset : Nat) : List Styled → Text × List Span
  | [] => ([], [])
  | part :: rest =>
    let part := part.expandTab column
    let (text, spans) := joinTabs (column + part.text.cells) (offset + part.text.length) rest
    (part.text ++ text, part.layered.map (Span.move offset) ++ spans)

/-- a line with blanks for its tabs -/
def expandTabs (s : Styled) : Styled :=
  let stops := (positionsOf 9 s.text).map (· + 1)
  if stops.isEmpty then s
  else
    let parts := (s.divide stops).filter fun part => !part.text.isEmpty
    let (text, spans) := joinTabs 0 0 parts
    ⟨text, s.base, spans⟩

/-- a line without the blanks at its end that stand beyond a width -/
def cutBlanks (width : Nat) (s : Styled) : Styled :=
  let blanks := s.text.length - s.text.trimEnd.length
  let excess := min blanks (s.text.length - width)
  if excess = 0 then s else s.crop (s.text.length - excess)

/-- a line without the blanks at its end -/
def trimEnd (s : Styled) : Styled :=
  if s.text.trimEnd.length < s.text.length then s.crop s.text.trimEnd.length else s

/-- a text in the place of another one; spans end with it -/
def withText (s : Styled) (t : Text) : Styled :=
  if t.length < s.text.length then { s with text := t, spans := s.spans.filterMap (Span.before? t.length) }
  else { s with text := t }

/-- a line no wider than a width -/
def fit (overflow : Overflow) (width : Nat) (s : Styled) : Styled :=
  if s.text.cells ≤ width then s
  else match overflow with
    | .fold => s.withText (Text.cut width s.text)
    | .ellipsis => s.withText (Text.cut (width - 1) s.text ++ "…")

/-- blanks at the end -/
def padEnd (width : Nat) (s : Styled) : Styled := { s with text := s.text ++ Text.spaces (width - s.text.cells) }

/-- a line brought to a width by blanks at both ends, the odd one at the end -/
def centre (width : Nat) (s : Styled) : Styled :=
  let left := (width - s.text.cells) / 2
  padEnd width { s with text := Text.spaces left ++ s.text, spans := s.spans.map (Span.move left) }

/-- the lines of a text in a place of a width -/
def wrap (overflow : Overflow) (width : Nat) (s : Styled) : List Styled :=
  s.lines.flatMap fun line =>
    let line := line.expandTabs
    (line.divide (Text.breaks (overflow = .fold) width line.text)).map (cutBlanks width)

/-! ## Runs -/

/-- whether a span begins or ends at a position -/
def isEnd (spans : List Span) (n : Nat) : Bool := spans.any fun s => s.start = n || s.stop = n

/-- the look at a position -/
def lookAt (spans : List Span) (n : Nat) : Look :=
  spans.foldl (fun look s => if s.start ≤ n ∧ n < s.stop then s.look.atop look else look) Look.plain

/-- the runs of a text whose first position is `n` -/
def runsFrom (spans : List Span) (n : Nat) : Text → List (Look × Text)
  | [] => []
  | c :: r =>
    match runsFrom spans (n + 1) r with
    | [] => [(lookAt spans n, [c])]
    | (look, t) :: more =>
      if isEnd spans (n + 1) then (lookAt spans n, [c]) :: (look, t) :: more else (look, c :: t) :: more

/-- the runs between the ends of spans, each with its look -/
def runs (s : Styled) : List (Look × Text) := runsFrom s.layered 0 s.text

end Styled
end Typings
