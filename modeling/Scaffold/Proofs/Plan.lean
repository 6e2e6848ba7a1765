import Scaffold.Proofs.Name.Request
import Scaffold.Proofs.Rendering

/-! What planning comes to. A request leads to files exactly if its names are accepted, and then to the files
of its kind with the texts that are written down for them. -/

namespace Scaffold

/-- A file as it is planned. -/
def ArtifactKind.planned (profile : Profile) (license : Option License) (name : ClassName) (shape : Shape)
    (kind : ArtifactKind) : Artifact :=
  ⟨kind, kind.path profile name, kind.content license (Text.ofLines (kind.lines profile name shape))⟩

/-- What is left of a content behind the preamble, if it starts with it. -/
def License.behind? (license : License) (content : Text) : Option Text :=
  if license.text <+: content then some (content.drop license.text.length) else none

/-- What a file of a class holds behind the preamble. -/
def Artifact.body? (license : License) (artifact : Artifact) : Option Text :=
  if artifact.kind.isLicensed then license.behind? artifact.content else some artifact.content

theorem License.behind?_before (license : License) (body : Text) :
    license.behind? (license.before body) = some body := by
  rw [License.behind?, License.before, if_pos (List.prefix_append _ _), List.drop_left]

theorem ArtifactKind.body?_planned (profile : Profile) (license : License) (name : ClassName) (shape : Shape)
    (kind : ArtifactKind) :
    (kind.planned profile (some license) name shape).body? license =
      some (Text.ofLines (kind.lines profile name shape)) := by
  rw [Artifact.body?, ArtifactKind.planned, ArtifactKind.content]
  cases kind.isLicensed with
  | true => exact license.behind?_before _
  | false => rfl

variable {profile : Profile} {license : License} {artifacts : List Artifact}

theorem renderClass_result (profile : Profile) (license : License) (name : ClassName) (shape : Shape) :
    (renderClass Template.renderer profile license name shape).result =
      .ok (ArtifactKind.classSet.map (ArtifactKind.planned profile (some license) name shape)) := by
  rw [renderClass, renderKinds_result (renderer_templateName profile name shape)]
  rfl

theorem renderTest_result (profile : Profile) (name : ClassName) :
    (renderTest Template.renderer profile name).result =
      .ok (ArtifactKind.testSet.map (ArtifactKind.planned profile none name .root)) := by
  rw [renderTest, renderKinds_result (renderer_templateName profile name .root)]
  rfl

/-! ### Refused and accepted requests -/

theorem planClass_result_of_error (render : Renderer) (profile : Profile) (license : License)
    {request : ClassRequest} {fault : NameFault} (h : request.check = .error fault) :
    (planClass render profile license request).result = .error (.validation fault) := by
  rw [planClass, Told.result_bind, Told.result_ofExcept, h]
  rfl

theorem planClass_result_of_ok (render : Renderer) (profile : Profile) (license : License)
    {request : ClassRequest} {name : ClassName} {shape : Shape} (h : request.check = .ok (name, shape)) :
    (planClass render profile license request).result = (renderClass render profile license name shape).result := by
  rw [planClass, Told.result_bind, Told.result_ofExcept, h]
  rfl

theorem planTest_result_of_error (render : Renderer) (profile : Profile) {className : Text} {fault : NameFault}
    (h : ClassName.parse className = .error fault) :
    (planTest render profile className).result = .error (.validation fault) := by
  rw [planTest, Told.result_bind, Told.result_ofExcept, h]
  rfl

theorem planTest_result_of_ok (render : Renderer) (profile : Profile) {className : Text} {name : ClassName}
    (h : ClassName.parse className = .ok name) :
    (planTest render profile className).result = (renderTest render profile name).result := by
  rw [planTest, Told.result_bind, Told.result_ofExcept, h]
  rfl

theorem planClass_result_eq_ok_iff {request : ClassRequest} :
    (planClass Template.renderer profile license request).result = .ok artifacts ↔
      ∃ name shape, request.check = .ok (name, shape) ∧
        artifacts = ArtifactKind.classSet.map (ArtifactKind.planned profile (some license) name shape) := by
  cases hcheck : request.check with
  | error fault =>
      rw [planClass_result_of_error _ _ _ hcheck]
      constructor
      · intro h
        exact nomatch h
      · rintro ⟨name, shape, haccepted, -⟩
        exact nomatch haccepted
  | ok accepted =>
      obtain ⟨name, shape⟩ := accepted
      rw [planClass_result_of_ok _ _ _ hcheck, renderClass_result]
      constructor
      · intro h
        exact ⟨name, shape, rfl, (Except.ok.inj h).symm⟩
      · rintro ⟨name', shape', haccepted, rfl⟩
        obtain ⟨rfl, rfl⟩ := Prod.mk.inj (Except.ok.inj haccepted)
        rfl

theorem planTest_result_eq_ok_iff {className : Text} :
    (planTest Template.renderer profile className).result = .ok artifacts ↔
      ∃ name, ClassName.parse className = .ok name ∧
        artifacts = ArtifactKind.testSet.map (ArtifactKind.planned profile none name .root) := by
  cases hparse : ClassName.parse className with
  | error fault =>
      rw [planTest_result_of_error _ _ hparse]
      constructor
      · intro h
        exact nomatch h
      · rintro ⟨name, haccepted, -⟩
        exact nomatch haccepted
  | ok name =>
      rw [planTest_result_of_ok _ _ hparse, renderTest_result]
      constructor
      · intro h
        exact ⟨name, rfl, (Except.ok.inj h).symm⟩
      · rintro ⟨name', haccepted, rfl⟩
        obtain rfl := Except.ok.inj haccepted
        rfl

end Scaffold
