import Scaffold.Name

/-!
# Shapes of a class

A class either stands alone, below the root type of the library, and owns its private state, or it
extends a base class and inherits the storage of that state.
-/

namespace Scaffold

/-- How a class is built. -/
inductive Shape where
  | root
  | derived (base : ClassName)
  deriving DecidableEq

/-- The shape a request asks for. A base class with the small name of the class itself is refused,
because the two would have the same files. -/
def Shape.select (class_ : ClassName) : Option Text → Except NameFault Shape
  | none => .ok .root
  | some name =>
    match ClassName.parse name with
    | .error fault => .error fault
    | .ok base => if base.lower = class_.lower then .error (.sameFiles class_ base) else .ok (.derived base)

/-- The shape of a class that has or has not a base class. -/
def Shape.ofBase : Option ClassName → Shape
  | none => .root
  | some base => .derived base

/-- The base class. -/
def Shape.base? : Shape → Option ClassName
  | .root => none
  | .derived base => some base

/-- The word templates know a shape by. -/
def Shape.tag : Shape → Text
  | .root => "root"
  | .derived _ => "derived"

/-- The shape in words. -/
def Shape.text : Shape → Text
  | .root => "root class"
  | .derived base => "derived from '" ++ base.pascal ++ "'"

end Scaffold
