/-
Pictograms: a short name between two colons stands for a picture.
-/
import Typings.Console.Pictogram.Names
import Typings.Text.Blank
import Typings.Text.Case

namespace Typings.Pictogram

/-- marks that choose between the text form and the picture form -/
def variants : List (Text × Nat) := [("-text", 0xFE0E), ("-emoji", 0xFE0F)]

/-- a name without the choice of its form, and the mark of that choice -/
def variant (name : Text) : Text × Text :=
  match variants.find? fun v => Text.endsWith name v.1 with
  | some (suffix, mark) => (Text.dropSuffix name suffix, [CodePoint.ofNat mark])
  | none => (name, [])

/-- the picture of a name, in capitals or small letters -/
def picture? (name : Text) : Option Text :=
  let (name, mark) := variant name
  (names.lookup (Text.lower name)).map (· ++ mark)

/-- what stands for a name between colons -/
def shown (name : Text) : Text := (picture? name).getD (":" ++ name ++ ":")

/-- the text of pieces that colons separate, after the first piece -/
def join : List Text → Text
  | [] => []
  | [last] => ":" ++ last
  | name :: next :: rest =>
    if name.any CodePoint.isBlank then ":" ++ name ++ join (next :: rest)
    else shown name ++ next ++ join rest

/-- a text with pictures for the names in it; two colons and the name between them are used once -/
def replace (t : Text) : Text :=
  match Text.splitAt ':' t with
  | [] => []
  | first :: rest => first ++ join rest

end Typings.Pictogram
