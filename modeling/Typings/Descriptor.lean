/-
Class descriptors: the name of a class, what it extends, and its constructors, methods and fields in the order
in which they are declared.
-/
import Typings.TypeName

namespace Typings

/-- one parameter of a signature -/
structure Parameter where
  name : Text
  type : Text
  deriving DecidableEq, Repr

/-- one constructor overload -/
structure Constructor where
  params : List Parameter
  deriving DecidableEq, Repr

/-- one method signature -/
structure Method where
  name : Text
  params : List Parameter
  returnType : Text
  isStatic : Bool
  deriving DecidableEq, Repr

/-- one field -/
structure Field where
  name : Text
  type : Text
  isStatic : Bool
  deriving DecidableEq, Repr

/-- one declared class; an absent list of constructors or fields is not an empty one -/
structure Descriptor where
  name : Text
  superClass : Option Text
  constructors : Option (List Constructor)
  methods : List Method
  fields : Option (List Field)
  deriving DecidableEq, Repr

/-- the class's name without its package -/
def Descriptor.shortName (d : Descriptor) : Text := TypeName.short d.name

end Typings
