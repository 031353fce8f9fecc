/-
Blank text: the code points that count as white space around a numeral, and those that leave a text empty.
-/
import Typings.Text.Basic

namespace Typings

/-- white space, the wide Unicode spaces included -/
def CodePoint.isSpace (c : CodePoint) : Bool :=
  (9 ≤ c.val && c.val ≤ 13) || c.val == 0x20 || c.val == 0x85 || c.val == 0xA0
    || c.val == 0x1680 || (0x2000 ≤ c.val && c.val ≤ 0x200A) || c.val == 0x2028 || c.val == 0x2029
    || c.val == 0x202F || c.val == 0x205F || c.val == 0x3000

/-- white space or one of the four information separators -/
def CodePoint.isBlank (c : CodePoint) : Bool := c.isSpace || (0x1C ≤ c.val && c.val ≤ 0x1F)

namespace Text

/-- nothing but blanks -/
def isBlank (t : Text) : Bool := t.all CodePoint.isBlank

/-- without the white space at both ends; information separators stay, since no numeral has them around it -/
def trim (t : Text) : Text :=
  ((t.dropWhile CodePoint.isSpace).reverse.dropWhile CodePoint.isSpace).reverse

/-- without the blanks at both ends -/
def trimBlanks (t : Text) : Text :=
  ((t.dropWhile CodePoint.isBlank).reverse.dropWhile CodePoint.isBlank).reverse

/-- without the blanks at the end -/
def trimEnd (t : Text) : Text := (t.reverse.dropWhile CodePoint.isBlank).reverse

end Text
end Typings
