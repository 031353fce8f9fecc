/-
Wrapping: where lines that are too wide for a console are divided.

A line is divided between two words where the next word would not fit; blanks that follow a word stay on its line. A
word wider than a whole line begins a line of its own, and is divided where the lines are full if it may be.
-/
import Typings.Text.Blank
import Typings.Text.Cells

namespace Typings.Text

/-- the words of a line, each with the blanks that follow it, by a walk from its end -/
def wordsFrom : Text → List Text
  | [] => []
  | c :: r =>
    match wordsFrom r with
    | [] => [[c]]
    | word :: more =>
      match word with
      | d :: _ => if c.isBlank && !d.isBlank then [c] :: word :: more else (c :: word) :: more
      | [] => [c] :: more

/-- the words of a line, each with the blanks that follow it, and the first with those before it too -/
def words (line : Text) : List Text :=
  match wordsFrom line with
  | first :: second :: more => if first.all CodePoint.isBlank then (first ++ second) :: more else first :: second :: more
  | ws => ws

/-- the positions where pieces begin, but for the beginning of the line -/
def startsOf (start : Nat) : List Text → List Nat
  | [] => []
  | piece :: rest => (if start = 0 then [] else [start]) ++ startsOf (start + piece.length) rest

/-- where a line of words is divided; the next word begins at `start`, and `used` columns of its line are taken -/
def breaksFrom (folds : Bool) (width start used : Nat) : List Text → List Nat
  | [] => []
  | word :: rest =>
    let size := word.trimEnd.cells
    let next := start + word.length
    if used + size ≤ width then breaksFrom folds width next (used + word.cells) rest
    else if width < size then
      if folds then
        let pieces := chop width word
        startsOf start pieces ++ breaksFrom folds width next (pieces.getLast?.getD []).cells rest
      else startsOf start [word] ++ breaksFrom folds width next word.cells rest
    else if used = 0 then breaksFrom folds width next used rest
    else startsOf start [word] ++ breaksFrom folds width next (if start = 0 then used else word.cells) rest

/-- where a line is divided so that its parts fit a width; `folds` tells whether words may be divided -/
def breaks (folds : Bool) (width : Nat) (line : Text) : List Nat := breaksFrom folds width 0 0 (words line)

end Typings.Text
