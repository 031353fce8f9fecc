/-
The console: where data and notices go, and how they look there.

Data go to the first stream, notices to the second. Notices are decorated with markup unless colour is off; the
markup never reaches the stream, but decorated notices are wrapped at the width of the console. A quiet console
leaves out what is neither a warning nor an error, a verbose one adds debugging notices, and progress shows only to
somebody who watches the first stream.

Both streams are taken to be encoded as UTF-8, the second one with escapes for what has no octets, and writing to them
never fails. Of the variables that turn colour on or off only `NO_COLOR` and `TERM` count here; those by which a user
makes the console take a file for a terminal are left out.
-/
import Typings.Console.Table
import Typings.Crash
import Typings.Environment
import Typings.Json.Writer
import Typings.Notice
import Typings.Text.Numeral

namespace Typings

/-- how data are written -/
inductive Format
  | json
  | plain
  | rich
  deriving DecidableEq, Repr

def Format.word : Format → Text
  | .json => "json"
  | .plain => "plain"
  | .rich => "rich"

namespace Notice

/-- a notice as a bare line -/
def message : Notice → Text
  | .info m | .success m | .progress m => m
  | .warning m => "Warning: " ++ m
  | .error m => "Error: " ++ m
  | .debug m => "[debug] " ++ m

/-- a notice with its look; nothing in its words counts as markup -/
def markup : Notice → Text
  | .info m => Markup.escape m
  | .success m => "[green]" ++ Markup.escape m ++ "[/green]"
  | .warning m => "[yellow]Warning:[/yellow] " ++ Markup.escape m
  | .error m => "[bold red]Error:[/bold red] " ++ Markup.escape m
  | .debug m => "[dim]" ++ Markup.escape ("[debug] " ++ m) ++ "[/dim]"
  | .progress m => "[dim]" ++ Markup.escape m ++ "[/dim]"

end Notice

structure Console where
  format : Format
  /-- whether notices are decorated -/
  decorated : Bool
  quiet : Bool
  verbose : Bool
  /-- whether the first stream is a terminal -/
  watched : Bool
  /-- the columns of the second stream -/
  width : Nat
  /-- the columns of the first stream -/
  tableWidth : Nat
  /-- how drawn tables look -/
  styling : Styling
  deriving DecidableEq, Repr

namespace Console

/-- what is asked of a console; without a format the environment decides -/
structure Options where
  format : Option Format := none
  noColour : Bool := false
  quiet : Bool := false
  verbose : Bool := false
  deriving DecidableEq, Repr

/-- the columns of a console that is not told how many it has -/
def defaultWidth : Nat := 80

/-- a number of columns or lines that the environment gives; texts of digits that are no number are an error, and
all other texts count for nothing -/
def dimension? (env : Environment) (name : Text) : Except Crash (Option Nat) :=
  match Environment.get? env name with
  | none => .ok none
  | some t =>
    if t.isEmpty || !t.all CodePoint.isAnyDigit then .ok none
    else match Numeral.integer 10 t with
      | .ok n => .ok (some n.toNat)
      | .error fault => .error (.value (fault.message 10 t))

/-- whether the environment turns colour off; nothing in it turns colour on, so `FORCE_COLOR` and `TTY_COMPATIBLE` are
ignored -/
def refusesColour (env : Environment) : Bool :=
  (Environment.get? env "NO_COLOR").isSome || Environment.get? env "TERM" == some "dumb"

/-- whether a terminal knows no codes -/
def isBare (env : Environment) : Bool :=
  let term := Text.lower ((Environment.get? env "TERM").getD [])
  term == "dumb" || term == "unknown"

/-- how many colours a terminal knows -/
def depthOf (env : Environment) : Depth :=
  let word (name : Text) : Text := Text.lower (Text.trimBlanks ((Environment.get? env name).getD []))
  if [("truecolor" : Text), "24bit"].contains (word "COLORTERM") then .all
  else
    let kind := (Text.splitAt '-' (word "TERM")).getLast?.getD []
    if [("kitty" : Text), "256color"].contains kind then .palette else .sixteen

/-- the console of an environment, whose streams are what `watched` says, whatever `FORCE_COLOR` and `TTY_COMPATIBLE`
are. A drawing on a terminal that knows no codes has the usual width unless the environment gives both dimensions -/
def of (env : Environment) (watched : Bool) (o : Options) : Except Crash Console := do
  let columns ← dimension? env "COLUMNS"
  let lines ← dimension? env "LINES"
  let decorated := !(o.noColour || refusesColour env)
  let width := columns.getD defaultWidth
  return {
    format := o.format.getD (if watched && decorated then .rich else .plain)
    decorated
    quiet := o.quiet
    verbose := o.verbose
    watched
    width
    tableWidth := if isBare env && (columns.isNone || lines.isNone) then defaultWidth else width
    styling :=
      if isBare env then .bare else if decorated then .coloured (depthOf env) else .monochrome }

/-! ## Notices -/

/-- whether a notice is shown -/
def shows (c : Console) : Notice → Bool
  | .info _ | .success _ => !c.quiet
  | .warning _ | .error _ => true
  | .debug _ => c.verbose
  | .progress _ => !c.quiet && c.watched

/-- text with markup as it stands on a console of a width. Only what its pieces show is asked for: no notice has markup
that cannot be read -/
def wrapped (width : Nat) (markup : Text) : Text :=
  if width = 0 then []
  else
    let shown : Styled := { text := Markup.plain markup }
    Text.join "\n" ((shown.wrap .fold width).map Styled.text) ++ "\n"

/-- a notice as it is written if it is shown; halves of surrogate pairs are escaped -/
def written (c : Console) (n : Notice) : Text :=
  Utf8.escapeSurrogates (if c.decorated then wrapped c.width n.markup else n.message ++ "\n")

/-- what a notice adds to the second stream -/
def notice (c : Console) (n : Notice) : Text := if c.shows n then c.written n else []

/-- what notices add to the second stream -/
def notices (c : Console) (ns : List Notice) : Text := ns.flatMap c.notice

/-! ## Data -/

/-- what a text adds to the first stream, which is always UTF-8: itself, if it can be encoded -/
def data (t : Text) : Except Crash Text :=
  match Utf8.encode t with
  | .ok _ => .ok t
  | .error fault => .error (.encoding fault)

/-- a value as a JSON text -/
def json (v : Value) : Text := Json.render v ++ "\n"

/-- a drawn text on the first stream -/
def drawn (t : Text) : Except Crash Text :=
  match Utf8.encode t with
  | .ok _ => .ok t
  | .error fault => .error (.drawing fault)

/-- what a table adds to the first stream, in the format of the console -/
def table (c : Console) (t : Table) : Except Crash Text :=
  match c.format with
  | .json => data (json t.toValue)
  | .plain => data t.toLines
  | .rich =>
    if c.tableWidth = 0 then .ok []
    else match t.draw c.styling with
      | .ok t => drawn t
      | .error fault => .error (.markup fault.message)

end Console
end Typings
