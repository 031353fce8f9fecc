/-
Colours: what a terminal can be told about them.

A colour is the terminal's own, one of the 256 of the usual palette, or a mixture of red, green and blue. A terminal
that knows fewer colours gets the nearest one it knows.
-/
import Typings.Text.Case
import Typings.Text.Digit

namespace Typings

/-- red, green and blue, each at most 255 -/
structure Mixture where
  red : Nat
  green : Nat
  blue : Nat
  deriving DecidableEq, Repr

/-- a colour as it is told -/
inductive Hue
  /-- the terminal's own -/
  | usual
  /-- of the palette of 256, whose first sixteen are those that every terminal with colours knows -/
  | numbered (n : Nat)
  | mixed (m : Mixture)
  deriving DecidableEq, Repr

/-- a colour and the name it was given by -/
structure Colour where
  name : Text
  hue : Hue
  deriving DecidableEq, Repr

/-- how many colours a terminal knows -/
inductive Depth
  | sixteen
  | palette
  | all
  deriving DecidableEq, Repr

namespace Colour

/-- the names of the colours of the palette -/
def names : List (String × Nat) := [
  ("black", 0), ("red", 1), ("green", 2), ("yellow", 3), ("blue", 4), ("magenta", 5), ("cyan", 6), ("white", 7),
  ("bright_black", 8), ("bright_red", 9), ("bright_green", 10), ("bright_yellow", 11), ("bright_blue", 12),
  ("bright_magenta", 13), ("bright_cyan", 14), ("bright_white", 15), ("grey0", 16), ("gray0", 16),
  ("navy_blue", 17), ("dark_blue", 18), ("blue3", 20), ("blue1", 21), ("dark_green", 22), ("deep_sky_blue4", 25),
  ("dodger_blue3", 26), ("dodger_blue2", 27), ("green4", 28), ("spring_green4", 29), ("turquoise4", 30),
  ("deep_sky_blue3", 32), ("dodger_blue1", 33), ("green3", 40), ("spring_green3", 41), ("dark_cyan", 36),
  ("light_sea_green", 37), ("deep_sky_blue2", 38), ("deep_sky_blue1", 39), ("spring_green2", 47), ("cyan3", 43),
  ("dark_turquoise", 44), ("turquoise2", 45), ("green1", 46), ("spring_green1", 48), ("medium_spring_green", 49),
  ("cyan2", 50), ("cyan1", 51), ("dark_red", 88), ("deep_pink4", 125), ("purple4", 55), ("purple3", 56),
  ("blue_violet", 57), ("orange4", 94), ("grey37", 59), ("gray37", 59), ("medium_purple4", 60), ("slate_blue3", 62),
  ("royal_blue1", 63), ("chartreuse4", 64), ("dark_sea_green4", 71), ("pale_turquoise4", 66), ("steel_blue", 67),
  ("steel_blue3", 68), ("cornflower_blue", 69), ("chartreuse3", 76), ("cadet_blue", 73), ("sky_blue3", 74),
  ("steel_blue1", 81), ("pale_green3", 114), ("sea_green3", 78), ("aquamarine3", 79), ("medium_turquoise", 80),
  ("chartreuse2", 112), ("sea_green2", 83), ("sea_green1", 85), ("aquamarine1", 122), ("dark_slate_gray2", 87),
  ("dark_magenta", 91), ("dark_violet", 128), ("purple", 129), ("light_pink4", 95), ("plum4", 96),
  ("medium_purple3", 98), ("slate_blue1", 99), ("yellow4", 106), ("wheat4", 101), ("grey53", 102), ("gray53", 102),
  ("light_slate_grey", 103), ("light_slate_gray", 103), ("medium_purple", 104), ("light_slate_blue", 105),
  ("dark_olive_green3", 149), ("dark_sea_green", 108), ("light_sky_blue3", 110), ("sky_blue2", 111),
  ("dark_sea_green3", 150), ("dark_slate_gray3", 116), ("sky_blue1", 117), ("chartreuse1", 118),
  ("light_green", 120), ("pale_green1", 156), ("dark_slate_gray1", 123), ("red3", 160), ("medium_violet_red", 126),
  ("magenta3", 164), ("dark_orange3", 166), ("indian_red", 167), ("hot_pink3", 168), ("medium_orchid3", 133),
  ("medium_orchid", 134), ("medium_purple2", 140), ("dark_goldenrod", 136), ("light_salmon3", 173),
  ("rosy_brown", 138), ("grey63", 139), ("gray63", 139), ("medium_purple1", 141), ("gold3", 178),
  ("dark_khaki", 143), ("navajo_white3", 144), ("grey69", 145), ("gray69", 145), ("light_steel_blue3", 146),
  ("light_steel_blue", 147), ("yellow3", 184), ("dark_sea_green2", 157), ("light_cyan3", 152),
  ("light_sky_blue1", 153), ("green_yellow", 154), ("dark_olive_green2", 155), ("dark_sea_green1", 193),
  ("pale_turquoise1", 159), ("deep_pink3", 162), ("magenta2", 200), ("hot_pink2", 169), ("orchid", 170),
  ("medium_orchid1", 207), ("orange3", 172), ("light_pink3", 174), ("pink3", 175), ("plum3", 176), ("violet", 177),
  ("light_goldenrod3", 179), ("tan", 180), ("misty_rose3", 181), ("thistle3", 182), ("plum2", 183), ("khaki3", 185),
  ("light_goldenrod2", 222), ("light_yellow3", 187), ("grey84", 188), ("gray84", 188), ("light_steel_blue1", 189),
  ("yellow2", 190), ("dark_olive_green1", 192), ("honeydew2", 194), ("light_cyan1", 195), ("red1", 196),
  ("deep_pink2", 197), ("deep_pink1", 199), ("magenta1", 201), ("orange_red1", 202), ("indian_red1", 204),
  ("hot_pink", 206), ("dark_orange", 208), ("salmon1", 209), ("light_coral", 210), ("pale_violet_red1", 211),
  ("orchid2", 212), ("orchid1", 213), ("orange1", 214), ("sandy_brown", 215), ("light_salmon1", 216),
  ("light_pink1", 217), ("pink1", 218), ("plum1", 219), ("gold1", 220), ("navajo_white1", 223),
  ("misty_rose1", 224), ("thistle1", 225), ("yellow1", 226), ("light_goldenrod1", 227), ("khaki1", 228),
  ("wheat1", 229), ("cornsilk1", 230), ("grey100", 231), ("gray100", 231), ("grey3", 232), ("gray3", 232),
  ("grey7", 233), ("gray7", 233), ("grey11", 234), ("gray11", 234), ("grey15", 235), ("gray15", 235),
  ("grey19", 236), ("gray19", 236), ("grey23", 237), ("gray23", 237), ("grey27", 238), ("gray27", 238),
  ("grey30", 239), ("gray30", 239), ("grey35", 240), ("gray35", 240), ("grey39", 241), ("gray39", 241),
  ("grey42", 242), ("gray42", 242), ("grey46", 243), ("gray46", 243), ("grey50", 244), ("gray50", 244),
  ("grey54", 245), ("gray54", 245), ("grey58", 246), ("gray58", 246), ("grey62", 247), ("gray62", 247),
  ("grey66", 248), ("gray66", 248), ("grey70", 249), ("gray70", 249), ("grey74", 250), ("gray74", 250),
  ("grey78", 251), ("gray78", 251), ("grey82", 252), ("gray82", 252), ("grey85", 253), ("gray85", 253),
  ("grey89", 254), ("gray89", 254), ("grey93", 255), ("gray93", 255)]

/-- six hexadecimal digits as a mixture -/
def ofHex? : Text → Option Mixture
  | [a, b, c, d, e, f] => do
    let byte (x y : CodePoint) : Option Nat := do return 16 * (← x.hexValue?) + (← y.hexValue?)
    return ⟨← byte a b, ← byte c d, ← byte e f⟩
  | _ => none

/-- what stands in parentheses behind a word -/
def argument? (word t : Text) : Option Text :=
  if Text.startsWith t (word ++ "(") && Text.endsWith t ")" then
    some ((t.drop (word.length + 1)).dropLast)
  else none

/-- the number of a colour of the palette -/
def ofNumber? (t : Text) : Option Nat :=
  if !t.isEmpty && t.length ≤ 3 && t.all CodePoint.isDigit && Text.toNat t ≤ 255 then some (Text.toNat t) else none

/-- one of three parts of a mixture -/
def part? (t : Text) : Option Nat :=
  let digits := t.asciiDigits
  if !digits.isEmpty && digits.all CodePoint.isDigit && Text.toNat digits ≤ 255 then some (Text.toNat digits) else none

/-- a mixture as three numbers between commas -/
def ofParts? (t : Text) : Option Mixture :=
  match Text.splitAt ',' t with
  | [r, g, b] => do return ⟨← part? r, ← part? g, ← part? b⟩
  | _ => none

/-- the hue that a name in small letters gives -/
def hueOf? (name : Text) : Option Hue :=
  if name = ("default" : Text) then some .usual
  else match names.find? fun e => Text.ofString e.1 == name with
    | some (_, n) => some (.numbered n)
    | none =>
      if Text.startsWith name "#" then (ofHex? (name.drop 1)).map .mixed
      else match argument? "color" name with
        | some t => (ofNumber? t).map .numbered
        | none => ((argument? "rgb" name).bind ofParts?).map .mixed

/-- the colour that a word names -/
def ofWord? (word : Text) : Option Colour :=
  let name := Text.lower word
  (hueOf? name).map fun hue => ⟨name, hue⟩

/-! ## Fewer colours -/

/-- the mixtures of the sixteen colours that every terminal with colours knows -/
def basic : List Mixture := [
  ⟨0, 0, 0⟩, ⟨170, 0, 0⟩, ⟨0, 170, 0⟩, ⟨170, 85, 0⟩, ⟨0, 0, 170⟩, ⟨170, 0, 170⟩, ⟨0, 170, 170⟩, ⟨170, 170, 170⟩,
  ⟨85, 85, 85⟩, ⟨255, 85, 85⟩, ⟨85, 255, 85⟩, ⟨255, 255, 85⟩, ⟨85, 85, 255⟩, ⟨255, 85, 255⟩, ⟨85, 255, 255⟩,
  ⟨255, 255, 255⟩]

/-- the six steps of each part in the cube of the palette -/
def cubeStep (n : Nat) : Nat := if n = 0 then 0 else 55 + 40 * n

/-- the mixture of a colour of the palette behind the first sixteen: a cube of mixtures, then a row of greys -/
def mixtureOf (n : Nat) : Mixture :=
  if n < 232 then ⟨cubeStep ((n - 16) / 36), cubeStep ((n - 16) / 6 % 6), cubeStep ((n - 16) % 6)⟩
  else let grey := 8 + 10 * (n - 232); ⟨grey, grey, grey⟩

/-- how far two mixtures look apart; red counts more where there is much of it, and blue where there is little -/
def distance (a b : Mixture) : Int :=
  let mean : Int := (a.red + b.red) / 2
  let red : Int := a.red - b.red
  let green : Int := a.green - b.green
  let blue : Int := a.blue - b.blue
  (512 + mean) * red * red / 256 + 4 * green * green + (767 - mean) * blue * blue / 256

/-- the first of the sixteen that is nearest to a mixture -/
def nearest (m : Mixture) : Nat :=
  let distances := basic.map (distance m)
  (distances.findIdx? fun d => distances.all (d ≤ ·)).getD 0

/-- a quotient rounded to the nearest number, a half to the even one -/
def rounded (num den : Nat) : Nat :=
  let q := num / den
  let twice := 2 * (num % den)
  if twice < den then q else if den < twice then q + 1 else if q % 2 = 0 then q else q + 1

/-- the step of the cube nearest to a part -/
def stepOf (part : Nat) : Nat := if part < 95 then rounded part 95 else rounded (part - 55) 40

/-- the colour of the palette for a mixture: a grey if it has hardly any colour, or else one of the cube -/
def paletteNumber (m : Mixture) : Nat :=
  let most := max m.red (max m.green m.blue)
  let least := min m.red (min m.green m.blue)
  let sum := most + least
  let range := if sum ≤ 255 then sum else 510 - sum
  if (most - least) * 20 < 3 * range || most = least then
    let grey := rounded (25 * sum) 510
    if grey = 0 then 16 else if grey = 25 then 231 else 231 + grey
  else 16 + 36 * stepOf m.red + 6 * stepOf m.green + stepOf m.blue

end Colour

/-- a hue as a terminal knows it -/
def Hue.fit : Depth → Hue → Hue
  | .sixteen, .numbered n => .numbered (if n < 16 then n else Colour.nearest (Colour.mixtureOf n))
  | .sixteen, .mixed m => .numbered (Colour.nearest m)
  | .palette, .mixed m => .numbered (Colour.paletteNumber m)
  | _, hue => hue

/-- the codes of a hue, as letters or behind them -/
def Hue.codes (behind : Bool) : Hue → List Text
  | .usual => [if behind then "49" else "39"]
  | .numbered n =>
    if n < 8 then [Text.ofNat ((if behind then 40 else 30) + n)]
    else if n < 16 then [Text.ofNat ((if behind then 92 else 82) + n)]
    else [if behind then "48" else "38", "5", Text.ofNat n]
  | .mixed m => [if behind then "48" else "38", "2", Text.ofNat m.red, Text.ofNat m.green, Text.ofNat m.blue]

end Typings
