/-
Writing JSON texts: one item or entry per line, two spaces of indentation per level.

A string is written with the code points it holds; only the quote, the backslash and the control characters below
the space are escaped. Kinds that JSON does not have are written as the string that names them.
-/
import Typings.Value

namespace Typings.Json

/-- one code point inside a string -/
def escaped (c : CodePoint) : Text :=
  if c = '"' then "\\\""
  else if c = '\\' then "\\\\"
  else if c.val = 10 then "\\n"
  else if c.val = 13 then "\\r"
  else if c.val = 9 then "\\t"
  else if c.val = 12 then "\\f"
  else if c.val = 8 then "\\b"
  else if c.val < 0x20 then "\\u" ++ Text.hex 4 c.val
  else [c]

/-- a string with its quotes -/
def string (t : Text) : Text := "\"" ++ t.flatMap escaped ++ "\""

/-- the indentation of a level -/
def indent (level : Nat) : Text := List.replicate (2 * level) (CodePoint.ofChar ' ')

/-- lines between brackets, one level deeper than the brackets themselves -/
def block (opening closing : Text) (level : Nat) (lines : List Text) : Text :=
  if lines.isEmpty then opening ++ closing
  else
    opening ++ "\n" ++ Text.join ",\n" (lines.map fun l => indent (level + 1) ++ l)
      ++ "\n" ++ indent level ++ closing

/-- a key as the string it is written as -/
def keyText : Value → Text
  | .text t => t
  | .null => "null"
  | .bool b => if b then "true" else "false"
  | .int n => Text.ofInt n
  | .float x => x.render Binary64.jsonStyle
  | v => v.quoted

mutual

/-- a value whose first line stands at a level -/
def write (level : Nat) : Value → Text
  | .null => "null"
  | .bool b => if b then "true" else "false"
  | .int n => Text.ofInt n
  | .float x => x.render Binary64.jsonStyle
  | .text t => string t
  | .list items => block "[" "]" level (writeItems (level + 1) items)
  | .tuple items => block "[" "]" level (writeItems (level + 1) items)
  | .map entries => block "\x7b" "\x7d" level (writeEntries (level + 1) entries)
  | v => string v.quoted

def writeItems (level : Nat) : List Value → List Text
  | [] => []
  | v :: r => write level v :: writeItems level r

def writeEntries (level : Nat) : List (Value × Value) → List Text
  | [] => []
  | (k, v) :: r => (string (keyText k) ++ ": " ++ write level v) :: writeEntries level r

end

/-- the JSON text of a value -/
def render (v : Value) : Text := write 0 v

end Typings.Json
