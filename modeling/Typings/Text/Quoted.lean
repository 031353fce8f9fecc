/-
Quoted text: one line of printable code points that shows exactly what a text or octets hold.

A text stands between apostrophes, or between double quotes if it holds an apostrophe and no double quote.
The quote in use and the backslash are escaped, and so is every code point that does not show as itself.
-/
import Typings.Text.Printable
import Typings.Text.Utf8

namespace Typings

/-- one code point inside a quoted text -/
def CodePoint.quotedIn (quote c : CodePoint) : Text :=
  if c = quote then ['\\', c]
  else if c = '\\' then "\\\\"
  else if c.val = 10 then "\\n"
  else if c.val = 13 then "\\r"
  else if c.val = 9 then "\\t"
  else if c.isPrintable then [c]
  else Utf8.escaped c

/-- the quote that needs fewer escapes; an apostrophe where both or neither occur -/
def Text.quoteFor (t : Text) : CodePoint :=
  if t.contains (CodePoint.ofChar '\'') && !t.contains (CodePoint.ofChar '"') then '"' else '\''

/-- a text between quotes -/
def Text.quoted (t : Text) : Text :=
  let quote := t.quoteFor
  [quote] ++ t.flatMap (CodePoint.quotedIn quote) ++ [quote]

/-- octets between quotes, behind the letter b: printable ASCII as itself and the rest as escapes -/
def Bytes.quoted (s : Bytes) : Text :=
  let t : Text := s.map fun b => CodePoint.ofNat b.toNat
  let quote := t.quoteFor
  let one (c : CodePoint) : Text :=
    if c = quote then ['\\', c]
    else if c = '\\' then "\\\\"
    else if c.val = 10 then "\\n"
    else if c.val = 13 then "\\r"
    else if c.val = 9 then "\\t"
    else if 0x20 ≤ c.val && c.val < 0x7F then [c]
    else Utf8.escaped c
  "b" ++ [quote] ++ t.flatMap one ++ [quote]

end Typings
