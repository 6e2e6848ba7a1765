import Scaffold.Artifact
import Scaffold.License
import Scaffold.Told

/-!
# Plans

A plan is the list of files that a request leads to, with their contents. Planning checks the names,
then asks the renderer for one template after the other, always in the same context, and touches no
file.
-/

namespace Scaffold

/-- A request for a class. -/
structure ClassRequest where
  className : Text
  baseName : Option Text
  deriving DecidableEq

/-- What templates know of a class: its names and those of its base class, its shape and the library. -/
def renderContext (profile : Profile) (name : ClassName) (shape : Shape) : Value :=
  .map [
    ("base", match shape.base? with
      | none => .null
      | some base => .ofClassName base),
    ("class", .ofClassName name),
    ("profile", .ofProfile profile),
    ("variant", .text shape.tag)]

/-- The content of a file: the rendered body, with the preamble in front if there is one and the kind of
file carries it. -/
def ArtifactKind.content (license : Option License) (kind : ArtifactKind) (body : Text) : Text :=
  match license with
  | some license => if kind.isLicensed then license.before body else body
  | none => body

/-- Renders the files of the given kinds in order, up to the first that fails. -/
def renderKinds (render : Renderer) (profile : Profile) (license : Option License) (name : ClassName)
    (context : Value) : List ArtifactKind → Told (List Artifact)
  | [] => return []
  | kind :: kinds => do
    Told.tell (.rendering kind.templateName context)
    let body ← Told.ofExcept (render kind.templateName context)
    let rest ← renderKinds render profile license name context kinds
    return ⟨kind, kind.path profile name, kind.content license body⟩ :: rest

/-- Renders the files of a class. -/
def renderClass (render : Renderer) (profile : Profile) (license : License) (name : ClassName)
    (shape : Shape) : Told (List Artifact) :=
  renderKinds render profile (some license) name (renderContext profile name shape)
    ArtifactKind.classSet

/-- Renders the files of a test, which carry no license. -/
def renderTest (render : Renderer) (profile : Profile) (name : ClassName) : Told (List Artifact) :=
  renderKinds render profile none name (renderContext profile name .root) ArtifactKind.testSet

/-- The name and the shape that a request asks for, the class being checked before its base. -/
def ClassRequest.check (request : ClassRequest) : Except NameFault (ClassName × Shape) := do
  let name ← ClassName.parse request.className
  let shape ← Shape.select name request.baseName
  return (name, shape)

/-- Plans the files of a class. -/
def planClass (render : Renderer) (profile : Profile) (license : License) (request : ClassRequest) :
    Told (List Artifact) := do
  let (name, shape) ← Told.ofExcept (request.check.mapError .validation)
  Told.tell (.planningClass name shape)
  renderClass render profile license name shape

/-- Plans the files of the test of a class. -/
def planTest (render : Renderer) (profile : Profile) (className : Text) : Told (List Artifact) := do
  let name ← Told.ofExcept ((ClassName.parse className).mapError .validation)
  Told.tell (.planningTest name)
  renderTest render profile name

end Scaffold
