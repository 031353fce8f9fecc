/-
Looks: weight, slant and other attributes, colours, and a link.

A look is defined by words: attributes, with "not" before one that is taken away, a colour, "on" before a colour
behind the letters, "link" before an address. What a look leaves open it takes from the look it is put over.
-/
import Typings.Console.Colour
import Typings.Text.Blank

namespace Typings

/-- what letters can be besides coloured -/
inductive Attribute
  | bold
  | dim
  | italic
  | underline
  | blink
  | fastBlink
  | reverse
  | conceal
  | strike
  | doubleUnderline
  | frame
  | encircle
  | overline
  deriving DecidableEq, Repr

namespace Attribute

/-- all attributes, in the order in which they are told, with their names and codes -/
def table : List (Attribute × String × String) := [
  (bold, "bold", "1"), (dim, "dim", "2"), (italic, "italic", "3"), (underline, "underline", "4"), (blink, "blink", "5"),
  (fastBlink, "blink2", "6"), (reverse, "reverse", "7"), (conceal, "conceal", "8"), (strike, "strike", "9"),
  (doubleUnderline, "underline2", "21"), (frame, "frame", "51"), (encircle, "encircle", "52"),
  (overline, "overline", "53")]

/-- the short names of attributes -/
def shortNames : List (String × Attribute) := [
  ("d", dim), ("b", bold), ("i", italic), ("u", underline), ("r", reverse), ("c", conceal), ("s", strike),
  ("uu", doubleUnderline), ("o", overline)]

/-- the attribute that a word names -/
def ofWord? (word : Text) : Option Attribute :=
  ((table.find? fun e => Text.ofString e.2.1 == word).map (·.1)).or
    ((shortNames.find? fun e => Text.ofString e.1 == word).map (·.2))

end Attribute

structure Look where
  /-- attributes that are given or taken away; the last entry of an attribute counts -/
  attributes : List (Attribute × Bool) := []
  colour : Option Colour := none
  /-- the colour behind the letters -/
  ground : Option Colour := none
  link : Option Text := none
  deriving DecidableEq, Repr

namespace Look

/-- the look that leaves everything open -/
def plain : Look := {}

/-- whether an attribute is given, taken away, or left open -/
def attribute? (look : Look) (a : Attribute) : Option Bool := look.attributes.reverse.lookup a

/-- a look over another one -/
def atop (upper lower : Look) : Look :=
  { attributes := lower.attributes ++ upper.attributes
    colour := upper.colour.or lower.colour
    ground := upper.ground.or lower.ground
    link := upper.link.or lower.link }

/-- a look without its colours -/
def withoutColours (look : Look) : Look := { look with colour := none, ground := none }

/-! ## Words -/

/-- the words of a text -/
def wordsOf (t : Text) : List Text := (t.splitOnP CodePoint.isBlank).filter (!·.isEmpty)

/-- a look and the words that define more of it; none if they define nothing -/
def ofWordsFrom (look : Look) : List Text → Option Look
  | [] => some look
  | word :: rest =>
    let small := Text.lower word
    if small = ("on" : Text) then
      match rest with
      | c :: more => (Colour.ofWord? c).bind fun c => ofWordsFrom { look with ground := some c } more
      | [] => none
    else if small = ("not" : Text) then
      match rest with
      | a :: more => (Attribute.ofWord? a).bind fun a =>
          ofWordsFrom { look with attributes := look.attributes ++ [(a, false)] } more
      | [] => none
    else if small = ("link" : Text) then
      match rest with
      | address :: more => ofWordsFrom { look with link := some address } more
      | [] => none
    else
      match Attribute.ofWord? small with
      | some a => ofWordsFrom { look with attributes := look.attributes ++ [(a, true)] } rest
      | none => (Colour.ofWord? small).bind fun c => ofWordsFrom { look with colour := some c } rest

/-- the look that a definition gives -/
def ofDefinition? (t : Text) : Option Look :=
  if wordsOf t = [("none" : Text)] then some plain else ofWordsFrom plain (wordsOf t)

/-- the words that define a look, each attribute at its place -/
def words (look : Look) : List Text :=
  (Attribute.table.filterMap fun (a, name, _) => (look.attribute? a).map fun b =>
      if b then Text.ofString name else "not " ++ Text.ofString name)
    ++ (match look.colour with
      | some c => [c.name]
      | none => [])
    ++ (match look.ground with
      | some c => ["on", c.name]
      | none => [])
    ++ (match look.link with
      | some address => ["link", address]
      | none => [])

/-- a definition in its usual form, so that two with the same effect are the same text -/
def usual (t : Text) : Text :=
  match ofDefinition? t with
  | some look => if look.words.isEmpty then "none" else Text.join " " look.words
  | none => Text.lower (Text.trimBlanks t)

/-! ## Names -/

/-- looks that have a name, by their definitions -/
def named : List (String × String) := [
  ("reset", "not bold not dim not italic not underline not blink not blink2 not reverse not conceal "
    ++ "not strike default on default"),
  ("bright", "not dim"), ("strong", "bold"), ("code", "bold reverse"), ("emphasize", "italic"),
  ("inspect.attr", "italic yellow"), ("inspect.attr.dunder", "dim italic yellow"), ("inspect.callable", "bold red"),
  ("inspect.async_def", "italic bright_cyan"), ("inspect.def", "italic bright_cyan"),
  ("inspect.class", "italic bright_cyan"), ("inspect.error", "bold red"), ("inspect.help", "cyan"),
  ("inspect.doc", "dim"), ("inspect.value.border", "green"), ("live.ellipsis", "bold red"),
  ("layout.tree.row", "not dim red"), ("layout.tree.column", "not dim blue"), ("logging.keyword", "bold yellow"),
  ("logging.level.notset", "dim"), ("logging.level.debug", "green"), ("logging.level.info", "blue"),
  ("logging.level.warning", "red"), ("logging.level.error", "bold red"),
  ("logging.level.critical", "bold reverse red"), ("log.time", "dim cyan"), ("log.path", "dim"),
  ("repr.ellipsis", "yellow"), ("repr.indent", "dim green"), ("repr.error", "bold red"),
  ("repr.str", "not bold not italic green"), ("repr.brace", "bold"), ("repr.comma", "bold"),
  ("repr.ipv4", "bold bright_green"), ("repr.ipv6", "bold bright_green"), ("repr.eui48", "bold bright_green"),
  ("repr.eui64", "bold bright_green"), ("repr.tag_start", "bold"), ("repr.tag_name", "bold bright_magenta"),
  ("repr.tag_contents", "default"), ("repr.tag_end", "bold"), ("repr.attrib_name", "not italic yellow"),
  ("repr.attrib_equal", "bold"), ("repr.attrib_value", "not italic magenta"),
  ("repr.number", "bold not italic cyan"), ("repr.number_complex", "bold not italic cyan"),
  ("repr.bool_true", "italic bright_green"), ("repr.bool_false", "italic bright_red"),
  ("repr.none", "italic magenta"), ("repr.url", "not bold not italic underline bright_blue"),
  ("repr.uuid", "not bold bright_yellow"), ("repr.call", "bold magenta"), ("repr.path", "magenta"),
  ("repr.filename", "bright_magenta"), ("rule.line", "bright_green"), ("json.brace", "bold"),
  ("json.bool_true", "italic bright_green"), ("json.bool_false", "italic bright_red"),
  ("json.null", "italic magenta"), ("json.number", "bold not italic cyan"),
  ("json.str", "not bold not italic green"), ("json.key", "bold blue"), ("prompt.choices", "bold magenta"),
  ("prompt.default", "bold cyan"), ("prompt.invalid", "red"), ("prompt.invalid.choice", "red"),
  ("scope.border", "blue"), ("scope.key", "italic yellow"), ("scope.key.special", "dim italic yellow"),
  ("scope.equals", "red"), ("table.header", "bold"), ("table.footer", "bold"), ("table.title", "italic"),
  ("table.caption", "dim italic"), ("traceback.error", "italic red"),
  ("traceback.border.syntax_error", "bright_red"), ("traceback.border", "red"), ("traceback.title", "bold red"),
  ("traceback.exc_type", "bold bright_red"), ("traceback.offset", "bold bright_red"), ("bar.back", "grey23"),
  ("bar.complete", "rgb(249,38,114)"), ("bar.finished", "rgb(114,156,31)"), ("bar.pulse", "rgb(249,38,114)"),
  ("progress.filesize", "green"), ("progress.filesize.total", "green"), ("progress.download", "green"),
  ("progress.elapsed", "yellow"), ("progress.percentage", "magenta"), ("progress.remaining", "cyan"),
  ("progress.data.speed", "red"), ("progress.spinner", "green"), ("status.spinner", "green"),
  ("markdown.em", "italic"), ("markdown.emph", "italic"), ("markdown.strong", "bold"),
  ("markdown.code", "bold cyan on black"), ("markdown.code_block", "cyan on black"),
  ("markdown.block_quote", "magenta"), ("markdown.list", "cyan"), ("markdown.item.bullet", "bold yellow"),
  ("markdown.item.number", "bold yellow"), ("markdown.hr", "yellow"), ("markdown.h1", "bold"),
  ("markdown.h2", "bold underline"), ("markdown.h3", "bold"), ("markdown.h4", "bold dim"),
  ("markdown.h5", "underline"), ("markdown.h6", "italic"), ("markdown.h7", "dim italic"),
  ("markdown.link", "bright_blue"), ("markdown.link_url", "underline blue"), ("markdown.s", "strike"),
  ("iso8601.date", "blue"), ("iso8601.time", "magenta"), ("iso8601.timezone", "yellow")]

/-- the look that a name or a definition gives; others give none -/
def ofText (t : Text) : Look :=
  match named.find? fun e => Text.ofString e.1 == t with
  | some (_, definition) => (ofDefinition? definition).getD plain
  | none => (ofDefinition? t).getD plain

/-! ## Codes -/

/-- the codes that tell a terminal about a look -/
def codes (depth : Depth) (look : Look) : Text :=
  let colour (behind : Bool) (c : Option Colour) : List Text :=
    match c with
    | some c => (c.hue.fit depth).codes behind
    | none => []
  Text.join ";" ((Attribute.table.filterMap fun (a, _, code) =>
      if look.attribute? a = some true then some (Text.ofString code) else none)
    ++ colour false look.colour ++ colour true look.ground)

end Look
end Typings
