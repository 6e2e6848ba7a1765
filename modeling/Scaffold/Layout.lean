import Scaffold.Artifact
import Scaffold.Told

/-!
# The root of the repository

All files of a run go below one root. A run is told the root or finds it from where its program lies,
which is a directory of tools directly below the root.
-/

namespace Scaffold

/-- The directory that paths of generated files are seen from. -/
structure Layout where
  root : Text
  deriving DecidableEq

namespace Layout

/-- The root two levels above a program. -/
def ofTool (tool : Text) : Told Layout :=
  match (Path.parent? tool).bind Path.parent? with
  | some root => do
    Told.tell (.resolvedRoot root)
    return ⟨root⟩
  | none => Told.ofExcept (.error (.layout (.noGrandparent tool)))

/-- The root that was told, else the one found from the program. -/
def resolve (tool : Text) : Option Text → Told Layout
  | some root => return ⟨root⟩
  | none => ofTool tool

/-- A path seen from the root. -/
def target (layout : Layout) (path : Text) : Text := Path.join layout.root path

end Layout

end Scaffold
