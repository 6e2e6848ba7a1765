import Scaffold.Template.Source

/-!
# License preambles

All licensed files of a run start with the same text. It is rendered once, for one year.
-/

namespace Scaffold

/-- A preamble and the year it names. -/
structure License where
  year : Int
  text : Text

/-- The values that the preamble is rendered with. -/
def License.context (profile : Profile) (year : Int) : Value :=
  .map [("profile", .ofProfile profile), ("year", .int year)]

/-- The preamble for a year. -/
def License.forYear (render : Renderer) (profile : Profile) (year : Int) : Except Error License :=
  (render "license" (context profile year)).map fun text => ⟨year, text⟩

/-- A text behind the preamble. -/
def License.before (license : License) (body : Text) : Text := license.text ++ body

end Scaffold
