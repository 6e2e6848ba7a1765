import Scaffold.Proofs.Outline
import Scaffold.Proofs.Plan

/-! The four code files of a class agree with each other. They are read back from what stands behind the
license preamble, and what one of them says of guards, parents, members and fields is held against what the
others say of it. -/

namespace Scaffold

namespace Cpp

/-- What stands behind the directives of a name, in order. -/
def arguments (directive : Text) (lines : List Line) : List (List Token) :=
  lines.filterMap fun
    | .directive name argument => if name = directive then some argument else none
    | _ => none

/-- The classes of a header with their parents. -/
def heads (lines : List Line) : List (Text × Option Text) :=
  lines.filterMap fun
    | .head type parent? => some (type, parent?)
    | _ => none

/-- The fields of the classes of a header with their types. -/
def fields (lines : List Line) : List (List Token × Text) :=
  lines.filterMap fun
    | .field type name => some (type, name)
    | _ => none

def declarations (lines : List Line) : List Member :=
  lines.filterMap fun
    | .declares member => some member
    | _ => none

def definitions (lines : List Line) : List Definition :=
  lines.filterMap fun
    | .defines definition => some definition
    | _ => none

def constructors (lines : List Line) : List Definition := (definitions lines).filter (!·.member.isDestructor)

/-- Lines that neither declare nor define anything. -/
def Line.isFrame : Line → Bool
  | .blank | .inclusion | .directive _ _ | .namespaceOpens _ | .namespaceCloses _ | .braces => true
  | _ => false

/-- The fields that a constructor initialises. If the class has a parent, that comes first. -/
def Definition.ownFields (parent? : Option Text) (definition : Definition) : List Text :=
  if parent?.isSome then definition.initialised.tail else definition.initialised

/-- The macro behind `#ifndef`, behind `#define` and in the comment behind `#endif` is the same. -/
structure IsGuardedBy (guard : Text) (lines : List Line) : Prop where
  ifndef : arguments "ifndef" lines = [[.word guard]]
  define : arguments "define" lines = [[.word guard]]
  endif : arguments "endif" lines = [[.mark '/', .mark '/', .word guard]]

end Cpp

open Cpp

/-- What the four code files of a class say. -/
structure CodeFiles where
  publicHeader : List Line
  publicSource : List Line
  privateHeader : List Line
  privateSource : List Line

namespace CodeFiles

/-- Reads one of the planned files back. -/
def readKind? (license : License) (artifacts : List Artifact) (kind : ArtifactKind) : Option (List Line) :=
  ((artifacts.find? (·.kind = kind)).bind (Artifact.body? license)).bind outline?

def read? (license : License) (artifacts : List Artifact) : Option CodeFiles := do
  let publicHeader ← readKind? license artifacts .publicHeader
  let publicSource ← readKind? license artifacts .publicSource
  let privateHeader ← readKind? license artifacts .privateHeader
  let privateSource ← readKind? license artifacts .privateSource
  return ⟨publicHeader, publicSource, privateHeader, privateSource⟩

/-- How the files of a class agree, given the name of its base class, if there is one. -/
structure Agree (profile : Profile) (className : Text) (baseName : Option Text) (files : CodeFiles) : Prop where
  guards : ∃ guard privateGuard, guard ≠ privateGuard ∧ IsGuardedBy guard files.publicHeader ∧
    IsGuardedBy privateGuard files.privateHeader
  /-- The parent of the class is what both of its constructors start with. -/
  parent : ∃ parent, parent = baseName.getD profile.rootBase ∧
    heads files.publicHeader = [(className, some parent)] ∧
    (constructors files.publicSource).map (·.initialised.head?) = [some parent, some parent]
  /-- The private class has a parent only if there is a base class, and then its constructor delegates to
  that parent. -/
  privateParent : ∃ parent?, parent? = baseName.map (· ++ ("Private" : Text)) ∧
    heads files.privateHeader = [(className ++ "Private", parent?)] ∧
    ∀ parent ∈ parent?, (constructors files.privateSource).map (·.initialised) = [[parent]]
  defined : (definitions files.publicSource).map (·.member) = declarations files.publicHeader
  privateDefined : (definitions files.privateSource).map (·.member) = declarations files.privateHeader
  /-- No member is declared twice, and hence none is defined twice. -/
  nodup : (declarations files.publicHeader ++ declarations files.privateHeader).Nodup
  /-- Nothing else is defined: headers define no member, and sources nothing but members. -/
  headers_define_nothing : definitions (files.publicHeader ++ files.privateHeader) = []
  sources_only_define : ∀ line ∈ files.publicSource ++ files.privateSource,
    line.isFrame = true ∨ ∃ definition, line = .defines definition
  /-- The private state is held by the class that stands alone, and what a class holds it initialises. -/
  state : fields files.publicHeader =
    if baseName = none then [(scopedPointerTo (className ++ "Private"), ("d_ptr" : Text))] else []
  privateState : fields files.privateHeader =
    if baseName = none then [(pointerTo className, ("q_ptr" : Text))] else []
  initialised : ∀ head ∈ heads files.publicHeader, ∀ definition ∈ constructors files.publicSource,
    definition.ownFields head.2 = (fields files.publicHeader).map Prod.snd
  privateInitialised : ∀ head ∈ heads files.privateHeader, ∀ definition ∈ constructors files.privateSource,
    definition.ownFields head.2 = (fields files.privateHeader).map Prod.snd

end CodeFiles

/-- What the files of a class say. -/
def Outline.files (profile : Profile) (name : ClassName) (shape : Shape) : CodeFiles :=
  ⟨publicHeader profile name shape, publicSource profile name shape, privateHeader profile name shape,
    privateSource profile name shape⟩

theorem ClassName.guard_ne_privateGuard (profile : Profile) (name : ClassName) :
    name.guard profile ≠ name.privateGuard profile := by
  intro h
  exact absurd (List.append_cancel_left h) (by decide +kernel)

theorem ClassName.pascal_ne_privateType (name : ClassName) : name.pascal ≠ name.privateType := by
  intro h
  exact absurd (List.append_cancel_left ((List.append_nil _).trans h)) (by decide +kernel)

namespace Outline

variable (profile : Profile) (name : ClassName) (shape : Shape)

theorem heads_publicHeader :
    heads (publicHeader profile name shape) = [(name.pascal, some (shape.parent profile))] := by
  cases shape <;> rfl

theorem heads_privateHeader :
    heads (privateHeader profile name shape) = [(name.privateType, shape.privateParent?)] := by
  cases shape <;> rfl

theorem declarations_publicHeader :
    declarations (publicHeader profile name shape) =
      [name.constructor, name.destructor, name.sharingConstructor] := by
  cases shape <;> rfl

theorem declarations_privateHeader :
    declarations (privateHeader profile name shape) = [name.privateConstructor] := by
  cases shape <;> rfl

theorem fields_publicHeader :
    fields (publicHeader profile name shape) =
      shape.choose [(scopedPointerTo name.privateType, ("d_ptr" : Text))] fun _ => [] := by
  cases shape <;> rfl

theorem fields_privateHeader :
    fields (privateHeader profile name shape) =
      shape.choose [(pointerTo name.pascal, ("q_ptr" : Text))] fun _ => [] := by
  cases shape <;> rfl

theorem constructors_publicSource :
    constructors (publicSource profile name shape) =
      [⟨name.constructor, shape.parent profile :: shape.choose ["d_ptr"] fun _ => []⟩,
       ⟨name.sharingConstructor, shape.parent profile :: shape.choose ["d_ptr"] fun _ => []⟩] := by
  cases shape <;> rfl

theorem constructors_privateSource :
    constructors (privateSource profile name shape) =
      [⟨name.privateConstructor, shape.choose ["q_ptr"] fun base => [base.privateType]⟩] := by
  cases shape <;> rfl

theorem nodup_declarations :
    (declarations (publicHeader profile name shape) ++ declarations (privateHeader profile name shape)).Nodup := by
  have hne := name.pascal_ne_privateType
  rw [declarations_publicHeader, declarations_privateHeader]
  simp [ClassName.constructor, ClassName.destructor, ClassName.sharingConstructor,
    ClassName.privateConstructor, hne]

theorem isGuardedBy_publicHeader : IsGuardedBy (name.guard profile) (publicHeader profile name shape) := by
  cases shape <;> exact ⟨rfl, rfl, rfl⟩

theorem isGuardedBy_privateHeader :
    IsGuardedBy (name.privateGuard profile) (privateHeader profile name shape) := by
  cases shape <;> exact ⟨rfl, rfl, rfl⟩

theorem agree :
    (Outline.files profile name shape).Agree profile name.pascal (shape.base?.map ClassName.pascal) where
  guards := ⟨name.guard profile, name.privateGuard profile, name.guard_ne_privateGuard profile,
    isGuardedBy_publicHeader profile name shape, isGuardedBy_privateHeader profile name shape⟩
  parent := by
    refine ⟨shape.parent profile, ?_, heads_publicHeader profile name shape, ?_⟩
    · cases shape <;> rfl
    · exact (congrArg _ (constructors_publicSource profile name shape)).trans rfl
  privateParent := by
    refine ⟨shape.privateParent?, ?_, heads_privateHeader profile name shape, ?_⟩
    · cases shape <;> rfl
    · intro parent hparent
      cases shape with
      | root => exact nomatch hparent
      | derived base =>
          obtain rfl := Option.some.inj hparent
          rfl
  defined := by cases shape <;> rfl
  privateDefined := by cases shape <;> rfl
  nodup := nodup_declarations profile name shape
  headers_define_nothing := by cases shape <;> rfl
  sources_only_define := by cases shape <;> simp [files, publicSource, privateSource, Line.isFrame]
  state := by
    refine (fields_publicHeader profile name shape).trans ?_
    cases shape <;> rfl
  privateState := by
    refine (fields_privateHeader profile name shape).trans ?_
    cases shape <;> rfl
  initialised := by
    show ∀ head ∈ heads (publicHeader profile name shape),
      ∀ definition ∈ constructors (publicSource profile name shape),
      definition.ownFields head.2 = (fields (publicHeader profile name shape)).map Prod.snd
    rw [heads_publicHeader, constructors_publicSource, fields_publicHeader]
    cases shape <;> simp [Definition.ownFields]
  privateInitialised := by
    show ∀ head ∈ heads (privateHeader profile name shape),
      ∀ definition ∈ constructors (privateSource profile name shape),
      definition.ownFields head.2 = (fields (privateHeader profile name shape)).map Prod.snd
    rw [heads_privateHeader, constructors_privateSource, fields_privateHeader]
    cases shape <;> simp [Definition.ownFields, Shape.privateParent?]

end Outline

/-! ### Reading planned files back -/

namespace CodeFiles

variable {profile : Profile} {name : ClassName} {shape : Shape}

theorem readKind?_planned (license : License) (hprofile : profile.IsSpelled) (hname : name.IsParsed)
    (hshape : shape.IsParsed) (kind : ArtifactKind) (hkind : kind ∈ ArtifactKind.classSet) :
    readKind? license (ArtifactKind.classSet.map (ArtifactKind.planned profile (some license) name shape)) kind =
      (kind.lines profile name shape).mapM Line.ofText? := by
  have hfind : (ArtifactKind.classSet.map (ArtifactKind.planned profile (some license) name shape)).find?
      (·.kind = kind) = some (kind.planned profile (some license) name shape) := by
    cases kind
    all_goals first | rfl | exact absurd hkind (by decide)
  have hlines := kind.lines_isLine hprofile hname hshape (by rintro rfl; exact absurd hkind (by decide))
  rw [readKind?, hfind, Option.bind_some, kind.body?_planned, Option.bind_some, outline?_ofLines hlines]

theorem read?_planned (license : License) (hprofile : profile.IsSpelled) (hname : name.IsParsed)
    (hshape : shape.IsParsed) :
    read? license (ArtifactKind.classSet.map (ArtifactKind.planned profile (some license) name shape)) =
      some (Outline.files profile name shape) := by
  have hread := readKind?_planned license hprofile hname hshape
  rw [read?, hread .publicHeader (by decide), hread .publicSource (by decide), hread .privateHeader (by decide),
    hread .privateSource (by decide)]
  simp only [ArtifactKind.lines, mapM_ofText?_publicHeader hprofile hname hshape,
    mapM_ofText?_publicSource hprofile hname hshape, mapM_ofText?_privateHeader hprofile hname hshape,
    mapM_ofText?_privateSource hprofile hname hshape]
  rfl

/-- The code files of every accepted class can be read back, and they agree. -/
theorem agree_of_planned {license : License} {request : ClassRequest} {artifacts : List Artifact}
    (hprofile : profile.IsSpelled)
    (hplan : (planClass Template.renderer profile license request).result = .ok artifacts) :
    ∃ files, read? license artifacts = some files ∧ files.Agree profile request.className request.baseName := by
  obtain ⟨name, shape, hcheck, rfl⟩ := planClass_result_eq_ok_iff.mp hplan
  have haccepts := ClassRequest.accepts_of_check hcheck
  have hread := read?_planned license hprofile haccepts.name_isParsed haccepts.shape_isParsed
  refine ⟨Outline.files profile name shape, hread, ?_⟩
  rw [← haccepts.pascal_eq, ← haccepts.base_pascal_eq]
  exact Outline.agree profile name shape

/-- The files of a class `class` that is derived from `explicit` agree. -/
theorem agree_of_planned_keywords :
    Profile.synqClient.IsSpelled ∧ ∃ artifacts files,
      (planClass Template.renderer .synqClient ⟨2024, "// 2024\n"⟩ ⟨"class", some "explicit"⟩).result =
        .ok artifacts ∧
      read? ⟨2024, "// 2024\n"⟩ artifacts = some files ∧
      files.Agree .synqClient "class" (some "explicit") := by
  have hcheck : ClassRequest.check ⟨"class", some "explicit"⟩ =
      .ok (.derive "class", .derived (.derive "explicit")) :=
    ClassRequest.check_of_isIdentifier (by decide +kernel) (by decide +kernel) (by decide +kernel)
  have hplan : (planClass Template.renderer .synqClient ⟨2024, "// 2024\n"⟩ ⟨"class", some "explicit"⟩).result =
      .ok (ArtifactKind.classSet.map (ArtifactKind.planned .synqClient (some ⟨2024, "// 2024\n"⟩)
        (.derive "class") (.derived (.derive "explicit")))) :=
    planClass_result_eq_ok_iff.mpr ⟨_, _, hcheck, rfl⟩
  obtain ⟨files, hread, hagree⟩ := agree_of_planned Profile.isSpelled_synqClient hplan
  exact ⟨Profile.isSpelled_synqClient, _, files, hplan, hread, hagree⟩

end CodeFiles

end Scaffold
