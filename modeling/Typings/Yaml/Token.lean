/-
Tokens: the pieces that a text falls into, each with the places where it starts and ends.
-/
import Typings.Yaml.Place

namespace Typings.Yaml

/-- the value of a directive -/
inductive Directive
  | version (major minor : Nat)
  | tagHandle (handle tagStart : Text)
  | unknown
  deriving DecidableEq, Repr

inductive TokenKind
  | streamStart
  | streamEnd
  | directive (value : Directive)
  | documentStart
  | documentEnd
  | blockSequenceStart
  | blockMappingStart
  | blockEnd
  | flowSequenceStart
  | flowMappingStart
  | flowSequenceEnd
  | flowMappingEnd
  | key
  | value
  | blockEntry
  | flowEntry
  | alias (name : Text)
  | anchor (name : Text)
  /-- a handle, or none if the tag is written in full, and what follows it -/
  | tag (handle : Option Text) (suffix : Text)
  | scalar (value : Text) (plain : Bool)
  deriving DecidableEq, Repr

/-- a token as problems name it -/
def TokenKind.name : TokenKind → Text
  | .streamStart => "<stream start>"
  | .streamEnd => "<stream end>"
  | .directive _ => "<directive>"
  | .documentStart => "<document start>"
  | .documentEnd => "<document end>"
  | .blockSequenceStart => "<block sequence start>"
  | .blockMappingStart => "<block mapping start>"
  | .blockEnd => "<block end>"
  | .flowSequenceStart => "["
  | .flowMappingStart => "\x7b"
  | .flowSequenceEnd => "]"
  | .flowMappingEnd => "\x7d"
  | .key => "?"
  | .value => ":"
  | .blockEntry => "-"
  | .flowEntry => ","
  | .alias _ => "<alias>"
  | .anchor _ => "<anchor>"
  | .tag _ _ => "<tag>"
  | .scalar _ _ => "<scalar>"

structure Token where
  kind : TokenKind
  start : Place
  stop : Place
  deriving DecidableEq, Repr

end Typings.Yaml
