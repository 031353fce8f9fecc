/-
Tables: a line of headers over rows of cells, as records, as lines with tabs, or drawn with a frame.

A drawn table is as wide as its widest cells. Rows may hold fewer cells than there are headers, or more. Headers and
the title are markup, cells are not.
-/
import Typings.Console.Markup
import Typings.Text.Newline
import Typings.Value

namespace Typings

structure Table where
  headers : List Text
  rows : List (List Text)
  title : Option Text := none
  deriving DecidableEq, Repr

/-- what a terminal is told about the look of a text -/
inductive Styling
  /-- nothing -/
  | bare
  /-- attributes only -/
  | monochrome
  /-- colours too, as many as the terminal knows -/
  | coloured (depth : Depth)
  deriving DecidableEq, Repr

/-- the codes for a look -/
def Styling.codes : Styling → Look → Text
  | .bare, _ => []
  | .monochrome, look => look.withoutColours.codes .sixteen
  | .coloured depth, look => look.codes depth

namespace Table

/-- a row as a record; the last cell of a repeated header counts, and cells without a header are left out -/
def record (headers row : List Text) : Value :=
  .map ((headers.zip row).foldl (fun entries e => Value.insert entries (.text e.1) (.text e.2)) [])

/-- the rows as records -/
def toValue (t : Table) : Value := .list (t.rows.map (record t.headers))

/-- one line -/
def line (cells : List Text) : Text := Text.join "\t" cells ++ "\n"

/-- the headers and the rows, a line each -/
def toLines (t : Table) : Text := (t.headers :: t.rows).flatMap line

/-! ## Drawing -/

/-- a text with the codes for its look around it -/
def painted (styling : Styling) (look : Look) (t : Text) : Text :=
  let codes := styling.codes look
  if codes.isEmpty || t.isEmpty then t
  else [CodePoint.ofNat 0x1B] ++ "[" ++ codes ++ "m" ++ t ++ [CodePoint.ofNat 0x1B] ++ "[0m"

/-- the runs of a line, each with its look over that of the whole -/
def paintedRuns (styling : Styling) (look : Look) (line : Styled) : Text :=
  line.runs.flatMap fun (upper, t) => painted styling (upper.atop look) t

/-- the look of headers, of cells and of the title -/
def headerLook : Look := { attributes := [(.bold, true)], colour := some ⟨"cyan", .numbered 6⟩ }
def cellLook : Look := Look.plain
def titleLook : Look := { attributes := [(.italic, true)] }

/-- how many columns a table has -/
def columns (t : Table) : Nat := (t.rows.map List.length).foldl Nat.max t.headers.length

/-- the columns of a terminal that a text of several lines takes -/
def cellWidth (t : Text) : Nat := (t.allLines.map Text.cells).foldl Nat.max 0

/-- a row brought to a number of cells -/
def completed (n : Nat) (row : List Styled) : List Styled := row ++ List.replicate (n - row.length) ⟨[], none, []⟩

/-- the width of each column -/
def widths (rows : List (List Styled)) (n : Nat) : List Nat :=
  rows.foldl (fun ws row => List.zipWith Nat.max ws (row.map fun cell => cellWidth cell.text)) (List.replicate n 0)

/-- a rule from one side of the frame to the other -/
def rule (left fill cross right : Text) (widths : List Nat) : Text :=
  left ++ Text.join cross (widths.map fun w => (List.replicate (w + 2) fill).flatten) ++ right ++ "\n"

/-- one line of cells between bars -/
def barred (bar : Text) (cells : List Text) : Text := bar ++ Text.join bar cells ++ bar ++ "\n"

/-- the lines of a row whose cells are blocks of lines of one height -/
def stacked (bar : Text) (height : Nat) (blocks : List (List Text)) : Text :=
  (List.range height).flatMap fun i => barred bar (blocks.map fun block => block.getD i [])

/-- a line of a cell between blanks -/
def cellLine (styling : Styling) (look : Look) (width : Nat) (line : Styled) : Text :=
  let blank := painted styling look " "
  blank ++ paintedRuns styling look ((line.fit .ellipsis width).padEnd width) ++ blank

/-- the lines of a cell; a column without a width has none -/
def cellLines (styling : Styling) (look : Look) (width : Nat) (cell : Styled) : List Text :=
  if width = 0 then [] else (cell.wrap .ellipsis width).map (cellLine styling look width)

/-- a block of lines brought to a height by blank lines at its foot, or at its head if it is to stand at the foot; of
a row without lines one blank line is left, which has no look -/
def block (styling : Styling) (look : Look) (atFoot : Bool) (height width : Nat) (lines : List Text) : List Text :=
  if height = 0 then [Text.spaces (width + 2)]
  else
    let blanks := List.replicate (height - lines.length) (painted styling look (Text.spaces (width + 2)))
    if atFoot then blanks ++ lines else lines ++ blanks

/-- a row of cells -/
def drawRow (styling : Styling) (look : Look) (atFoot : Bool) (bar : Text) (widths : List Nat) (row : List Styled) :
    Text :=
  let cells := (widths.zip row).map fun (w, cell) => (w, cellLines styling look w cell)
  let height := (cells.map fun c => c.2.length).foldl Nat.max 0
  stacked bar (max height 1) (cells.map fun (w, lines) => block styling look atFoot height w lines)

/-- the title over a table of a width; an empty title is none -/
def drawTitle (styling : Styling) (width : Nat) (title : Text) : Except Markup.Fault Text :=
  if title.isEmpty then .ok []
  else do
    let lines := ({ ← Markup.read title with base := some titleLook } : Styled).wrap .fold width
    return lines.flatMap fun line =>
      paintedRuns styling Look.plain ((line.trimEnd.fit .fold width).centre width) ++ "\n"

/-- a table in its frame; one without columns is an empty line -/
def draw (styling : Styling) (t : Table) : Except Markup.Fault Text := do
  let n := t.columns
  if n = 0 then return "\n"
  let headers := completed n (← t.headers.mapM Markup.read)
  let rows := t.rows.map fun row => completed n (row.map fun cell => ⟨Markup.plain (Markup.escape cell), none, []⟩)
  let ws := widths (headers :: rows) n
  let title ← match t.title with
    | some title => drawTitle styling (ws.foldr (· + ·) 0 + 3 * n + 1) title
    | none => pure []
  return title ++ rule "┏" "━" "┳" "┓" ws ++ drawRow styling headerLook true "┃" ws headers
    ++ rule "┡" "━" "╇" "┩" ws ++ rows.flatMap (drawRow styling cellLook false "│" ws) ++ rule "└" "─" "┴" "┘" ws

end Table
end Typings
