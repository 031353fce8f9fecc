/-
Declarations: the text of a class descriptor as a declaration file.

Types are resolved in the order superclass, constructors, methods (return type before parameters), fields, so
imports appear in the order of first reference. `declaration` gives the class block, one line per member;
`declarationFile` puts the import lines and an empty line before it.
-/
import Typings.Descriptor

namespace Typings

/-- a member with every type written out -/
inductive Member
  | constructor (params : Text)
  | method (isStatic : Bool) (name params returnType : Text)
  | field (isStatic : Bool) (name type : Text)
  deriving DecidableEq, Repr

/-- the word before a static member -/
def staticMark (isStatic : Bool) : Text := if isStatic then "static " else []

/-- a member as it stands on its line -/
def Member.render : Member → Text
  | .constructor params => "constructor(" ++ params ++ ");"
  | .method isStatic name params returnType =>
    staticMark isStatic ++ name ++ "(" ++ params ++ "): " ++ returnType ++ ";"
  | .field isStatic name type => staticMark isStatic ++ name ++ ": " ++ type ++ ";"

/-- a member's whole line -/
def Member.line (m : Member) : Text := "  " ++ m.render ++ "\n"

/-- the clause that names the superclass -/
def extendsClause : Option Text → Text
  | none => []
  | some parent => " extends " ++ parent

/-- the first line of a class block -/
def classHeader (name : Text) (parent : Option Text) : Text :=
  "export class " ++ name ++ extendsClause parent ++ " \x7b"

/-- a class block: header, members, closing brace, each on its line -/
def classBlock (name : Text) (parent : Option Text) (members : List Member) : Text :=
  classHeader name parent ++ "\n" ++ members.flatMap Member.line ++ "\x7d\n"

/-- parameters as `name: type`, separated by commas -/
def resolveParameters (params : List Parameter) : Resolving Text := do
  let shown ← params.mapM fun p => do return p.name ++ ": " ++ (← TypeName.resolve p.type)
  return Text.join ", " shown

/-- the written superclass; an empty name is none -/
def resolveParent : Option Text → Resolving (Option Text)
  | none => return none
  | some name => if name.isEmpty then return none else some <$> TypeName.resolve name

def Constructor.resolve (c : Constructor) : Resolving Member :=
  Member.constructor <$> resolveParameters c.params

def Method.resolve (m : Method) : Resolving Member := do
  let returnType ← TypeName.resolve m.returnType
  let params ← resolveParameters m.params
  return .method m.isStatic m.name params returnType

def Field.resolve (f : Field) : Resolving Member := do
  return .field f.isStatic f.name (← TypeName.resolve f.type)

namespace Descriptor

/-- the class block of a descriptor -/
def declaration (d : Descriptor) : Resolving Text := do
  let parent ← resolveParent d.superClass
  let constructors ← (d.constructors.getD []).mapM Constructor.resolve
  let methods ← d.methods.mapM Method.resolve
  let fields ← (d.fields.getD []).mapM Field.resolve
  return classBlock d.shortName parent (constructors ++ methods ++ fields)

/-- the whole declaration file: import lines, an empty line, the class block -/
def declarationFile (d : Descriptor) : Except TypeName.Unnamed Text :=
  match d.declaration.run ImportSet.empty with
  | (.ok block, imports) => .ok (imports.render ++ "\n" ++ block)
  | (.error e, _) => .error e

end Descriptor
end Typings
