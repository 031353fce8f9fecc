/-
Line ends: a carriage return, alone or before a line feed, counts as one line feed. Where all marks that end a line
count, the separators of control data and of Unicode do too.
-/
import Typings.Text.Basic

namespace Typings.Text

/-- every line end becomes a line feed -/
def unifyNewlines : Text → Text
  | [] => []
  | [c] => if c.val = 13 then [10] else [c]
  | c :: d :: r =>
    if c.val = 13 then
      if d.val = 10 then 10 :: unifyNewlines r else 10 :: unifyNewlines (d :: r)
    else c :: unifyNewlines (d :: r)

/-- whether a code point ends a line where all marks count -/
def endsLine (c : CodePoint) : Bool :=
  (10 ≤ c.val && c.val ≤ 13) || (0x1C ≤ c.val && c.val ≤ 0x1E) || c.val == 0x85 || c.val == 0x2028 || c.val == 0x2029

/-- the lines of a text where all marks count; nothing behind the last mark is no line -/
def allLines (t : Text) : List Text :=
  let pieces := (unifyNewlines t).splitOnP endsLine
  if pieces.getLast?.getD [] = [] then pieces.dropLast else pieces

end Typings.Text
