/-
The shape of a descriptor: which document values are class descriptors, and what they describe.

Keys that a descriptor does not know are ignored at every level. A part with two spellings is taken from the first
of them that is there.
-/
import Typings.Descriptor
import Typings.Failure
import Typings.Shape.Check

namespace Typings

open Shape Shape.Checked

/-- parameters as entries of names and types -/
def Parameter.ofEntries (entries : List (Text × Text)) : List Parameter := entries.map fun e => ⟨e.1, e.2⟩

/-- parameters in the order of their entries -/
def Parameter.check (v : Value) : Checked (List Parameter) := map Parameter.ofEntries (textMap v)

def Constructor.check : Value → Checked Constructor :=
  record "ConstructorDescriptor" fun v entries =>
    Constructor.mk <$> required v entries "params" none Parameter.check

def Method.check : Value → Checked Method :=
  record "MethodDescriptor" fun v entries =>
    Method.mk <$> required v entries "name" none text
      <*> required v entries "params" none Parameter.check
      <*> required v entries "return_type" (some "returnType") text
      <*> withDefault entries "is_static" (some "isStatic") false Shape.bool

def Field.check : Value → Checked Field :=
  record "FieldDescriptor" fun v entries =>
    Field.mk <$> required v entries "name" none text
      <*> required v entries "type" none text
      <*> withDefault entries "is_static" (some "isStatic") false Shape.bool

namespace Descriptor

def check : Value → Checked Descriptor :=
  record "ClassDescriptor" fun v entries =>
    Descriptor.mk <$> required v entries "name" none text
      <*> withDefault entries "super_class" (some "superClass") none (optional text)
      <*> withDefault entries "constructors" none none (optional (list Constructor.check))
      <*> required v entries "methods" none (list Method.check)
      <*> withDefault entries "fields" none none (optional (list Field.check))

/-- where a descriptor comes from, in messages -/
def source : Option Path → Text
  | some p => " in " ++ p.toText
  | none => []

/-- the descriptor that a document value holds -/
def ofValue (path : Option Path) (v : Value) : Except Failure Descriptor :=
  match entries? v.seen with
  | none =>
    .error (Failure.of (.descriptor path)
      ("Descriptor must be a JSON/YAML object (got " ++ v.kind ++ ")" ++ source path))
  | some _ =>
    match check v with
    | .ok d => .ok d
    | .bad issues =>
      .error (Failure.of (.descriptor path) ("Invalid descriptor" ++ source path ++ ": " ++ summary issues))

end Descriptor
end Typings
