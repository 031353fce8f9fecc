/-
Options: the words of a command line that begin with a dash.

A long name has two dashes and may carry its value behind an equals sign; otherwise the next word is its value,
whatever it looks like. Letters share one dash. Two dashes alone end the options, and a dash alone is a plain word.
-/
import Typings.Text.Basic

namespace Typings.CommandLine

/-- why a command line is not understood -/
inductive Misuse
  | noArguments
  | noCommand
  | unknownCommand (name : Text)
  | unknownOption (name : Text)
  /-- a value for an option that takes none -/
  | unexpectedValue (name : Text)
  | missingValue (name : Text)
  | missingArgument (name : Text)
  | extraArguments (words : List Text)
  deriving DecidableEq, Repr

/-- an option and what it does to the options read before it -/
inductive Rule (α : Type)
  | switch (name : Text) (letter : Option CodePoint) (set : α → α)
  | value (name : Text) (set : Text → α → α)

namespace Rule

variable {α : Type}

/-- the name with its dashes -/
def name : Rule α → Text
  | .switch name _ _ => name
  | .value name _ => name

/-- the rule for a long name -/
def find? (rules : List (Rule α)) (name : Text) : Option (Rule α) := rules.find? fun r => r.name == name

/-- what a letter does -/
def letter? (rules : List (Rule α)) (c : CodePoint) : Option (α → α) :=
  rules.findSome? fun
    | .switch _ letter set => if letter = some c then some set else none
    | .value _ _ => none

/-- the letters behind one dash, in turn -/
def letters (rules : List (Rule α)) : α → Text → Except Misuse α
  | o, [] => .ok o
  | o, c :: rest =>
    match letter? rules c with
    | some set => letters rules (set o) rest
    | none => .error (.unknownOption ['-', c])

/-- whether a word is an option -/
def isOption (word : Text) : Bool := Text.startsWith word "-" && word.length != 1

/-- a long option in its parts: the name, and the value behind an equals sign -/
def parts (word : Text) : Text × Option Text :=
  let name := word.takeWhile fun c => c != CodePoint.ofChar '='
  (name, if name.length < word.length then some (word.drop (name.length + 1)) else none)

/-- what the options in words do, and the words that are no options; where options and words do not mix, the first
plain word ends the options -/
def read (rules : List (Rule α)) (mixed : Bool) (o : α) : List Text → Except Misuse (α × List Text)
  | [] => .ok (o, [])
  | word :: rest =>
    if word = ("--" : Text) then .ok (o, rest)
    else if !isOption word then
      if mixed then (read rules mixed o rest).map fun (o, words) => (o, word :: words)
      else .ok (o, word :: rest)
    else if !Text.startsWith word "--" then
      match letters rules o (word.drop 1) with
      | .ok o => read rules mixed o rest
      | .error m => .error m
    else
      match find? rules (parts word).1, (parts word).2 with
      | none, _ => .error (.unknownOption (parts word).1)
      | some (.switch _ _ set), none => read rules mixed (set o) rest
      | some (.switch name _ _), some _ => .error (.unexpectedValue name)
      | some (.value _ set), some v => read rules mixed (set v o) rest
      | some (.value name set), none =>
        match rest with
        | [] => .error (.missingValue name)
        | v :: more => read rules mixed (set v o) more

end Rule
end Typings.CommandLine
