import Scaffold.Proofs.Agreement
import Scaffold.Proofs.Order

/-! What the types of a generated class derive from. The headers of a class declare the class and its private type,
and name the root base of the library, or the base class and its private type, as what these derive from. No way
from type to type closes, unless the class is itself the root base; but a type that is declared can also be named,
if one of the names is that of a private type. -/

namespace Scaffold

namespace ClassRequest

/-- The class and what it derives from. -/
def publicHead (profile : Profile) (request : ClassRequest) : Text × Option Text :=
  (request.className, some (request.baseName.getD profile.rootBase))

/-- The private type of the class and what it derives from, if it derives from anything. -/
def privateHead (request : ClassRequest) : Text × Option Text :=
  (request.className ++ "Private", request.baseName.map (· ++ ("Private" : Text)))

/-- The types that the headers of a class declare, each with what it derives from. -/
def heads (profile : Profile) (request : ClassRequest) : List (Text × Option Text) :=
  [request.publicHead profile, request.privateHead]

/-- The type derives from the parent. -/
def Derives (profile : Profile) (request : ClassRequest) (type parent : Text) : Prop :=
  (type, some parent) ∈ request.heads profile

end ClassRequest

/-- The line that declares a type, with what stands between `class` and the name. -/
def headLine (words : Text) : Text × Option Text → Text
  | (type, none) => "class " ++ words ++ type
  | (type, some parent) => "class " ++ words ++ type ++ " : public " ++ parent

/-! ### What the headers say -/

variable {profile : Profile} {name : ClassName} {shape : Shape}

theorem headLine_mem_publicHeader (profile : Profile) (name : ClassName) (shape : Shape) :
    headLine (profile.exportMacro ++ " ") (name.pascal, some (shape.parent profile)) ∈
      Content.publicHeader profile name shape := by
  have hline : ∀ parent : Text, headLine (profile.exportMacro ++ " ") (name.pascal, some parent) =
      "class " ++ profile.exportMacro ++ " " ++ name.pascal ++ " : public " ++ parent := fun parent =>
    congrArg (fun start : Text => start ++ name.pascal ++ " : public " ++ parent) (List.append_assoc _ _ _).symm
  rw [hline]
  cases shape with
  | root => exact List.mem_of_getElem? (i := 13) rfl
  | derived base => exact List.mem_of_getElem? (i := 14) rfl

theorem headLine_mem_privateHeader (profile : Profile) (name : ClassName) (shape : Shape) :
    headLine [] (name.privateType, shape.privateParent?) ∈ Content.privateHeader profile name shape := by
  cases shape with
  | root => exact List.mem_of_getElem? (i := 7) rfl
  | derived base => exact List.mem_of_getElem? (i := 8) rfl

theorem line_infix_ofLines {line : Text} {lines : List Text} (h : line ∈ lines) :
    line ++ ['\n'] <:+: Text.ofLines lines := by
  obtain ⟨before, after, rfl⟩ := List.append_of_mem h
  refine ⟨Text.ofLines before, Text.ofLines after, ?_⟩
  rw [Text.ofLines, Text.ofLines, Text.ofLines, List.flatMap_append, List.flatMap_cons, List.append_assoc]

/-- A line of a file stands in its content, be there a preamble in front of it or not. -/
theorem ArtifactKind.line_infix_planned (license : License) (kind : ArtifactKind) {line : Text}
    (h : line ∈ kind.lines profile name shape) :
    line ++ ['\n'] <:+: (kind.planned profile (some license) name shape).content := by
  have hbody := line_infix_ofLines h
  change _ <:+: kind.content (some license) _
  rw [ArtifactKind.content]
  cases kind.isLicensed with
  | true => exact hbody.trans (List.suffix_append _ _).isInfix
  | false => exact hbody

theorem headLine_infix_publicHeader (profile : Profile) (license : License) (name : ClassName) (shape : Shape) :
    headLine (profile.exportMacro ++ " ") (name.pascal, some (shape.parent profile)) ++ ['\n'] <:+:
      (ArtifactKind.publicHeader.planned profile (some license) name shape).content :=
  ArtifactKind.publicHeader.line_infix_planned license (headLine_mem_publicHeader profile name shape)

theorem headLine_infix_privateHeader (profile : Profile) (license : License) (name : ClassName) (shape : Shape) :
    headLine [] (name.privateType, shape.privateParent?) ++ ['\n'] <:+:
      (ArtifactKind.privateHeader.planned profile (some license) name shape).content :=
  ArtifactKind.privateHeader.line_infix_planned license (headLine_mem_privateHeader profile name shape)

/-! ### Types that are declared and named -/

theorem append_private_append_private_ne (text : Text) : text ++ "Private" ++ "Private" ≠ text := by
  intro h
  rw [List.append_assoc] at h
  exact absurd (List.append_cancel_left (h.trans (List.append_nil _).symm)) (by decide +kernel)

namespace ClassRequest

variable {className baseName : Text}

/-- A declared type is also named exactly if the class or its private type is the root base, or if one of the class
and the base class is called what the private type of the other is called. -/
theorem parents_notMem_iff (profile : Profile) (request : ClassRequest)
    (hne : ∀ baseName, request.baseName = some baseName → request.className ≠ baseName) :
    (∀ type ∈ (request.heads profile).map Prod.fst, type ∉ (request.heads profile).filterMap Prod.snd) ↔
      match request.baseName with
      | none => request.className ≠ profile.rootBase ∧ request.className ++ "Private" ≠ profile.rootBase
      | some baseName => request.className ≠ baseName ++ "Private" ∧ baseName ≠ request.className ++ "Private" := by
  obtain ⟨className, baseName?⟩ := request
  have hparents : (heads profile ⟨className, baseName?⟩).filterMap Prod.snd =
      baseName?.elim [profile.rootBase] fun baseName => [baseName, baseName ++ "Private"] := by
    cases baseName? <;> rfl
  have hdeclared : (heads profile ⟨className, baseName?⟩).map Prod.fst = [className, className ++ "Private"] := rfl
  rw [hparents, hdeclared, List.forall_mem_cons, List.forall_mem_singleton]
  cases baseName? with
  | none => simp only [Option.elim_none, List.mem_singleton, ne_eq]
  | some baseName =>
      have hclass : className ≠ baseName := hne baseName rfl
      have hprivate : className ++ "Private" ≠ baseName ++ "Private" := fun h => hclass (List.append_cancel_right h)
      simp only [Option.elim_some, List.mem_cons, List.not_mem_nil, or_false, not_or, hclass, hprivate, ne_eq,
        not_false_eq_true, true_and]
      exact and_congr_right fun _ => not_congr eq_comm

theorem derives_iff_none (profile : Profile) {type parent : Text} :
    Derives profile ⟨className, none⟩ type parent ↔ type = className ∧ parent = profile.rootBase := by
  simp [Derives, heads, publicHead, privateHead]

theorem derives_iff_some (profile : Profile) {type parent : Text} :
    Derives profile ⟨className, some baseName⟩ type parent ↔
      (type = className ∧ parent = baseName) ∨
      (type = className ++ "Private" ∧ parent = baseName ++ "Private") := by
  simp [Derives, heads, publicHead, privateHead]

/-- Derivations from a base class do not close: if the class is called what the private type of the base class is
called, then the base class is not called what that of the class is called. -/
theorem not_transGen_derives_some (profile : Profile) (hne : className ≠ baseName) (type : Text) :
    ¬Relation.TransGen (Derives profile ⟨className, some baseName⟩) type type := by
  have hprivate : className ++ "Private" ≠ baseName ++ "Private" := fun h => hne (List.append_cancel_right h)
  by_cases hclass : className = baseName ++ "Private"
  · refine not_transGen_self [baseName, baseName ++ "Private"] (fun type parent hderives => ?_) type
    rcases (derives_iff_some profile).mp hderives with ⟨rfl, rfl⟩ | ⟨rfl, rfl⟩
    · exact ⟨[parent], List.prefix_append [_] [_], List.mem_singleton_self _, fun h => hne (List.mem_singleton.mp h)⟩
    · refine ⟨_, List.prefix_refl _, List.mem_cons_of_mem _ (List.mem_singleton_self _), fun h => ?_⟩
      rcases List.mem_cons.mp h with hbase | hsame
      · exact append_private_append_private_ne baseName (hclass ▸ hbase)
      · exact hprivate (List.mem_singleton.mp hsame)
  · refine not_transGen_self [baseName ++ "Private", baseName] (fun type parent hderives => ?_) type
    rcases (derives_iff_some profile).mp hderives with ⟨rfl, rfl⟩ | ⟨rfl, rfl⟩
    · refine ⟨_, List.prefix_refl _, List.mem_cons_of_mem _ (List.mem_singleton_self _), fun h => ?_⟩
      rcases List.mem_cons.mp h with hbase | hsame
      · exact hclass hbase
      · exact hne (List.mem_singleton.mp hsame)
    · exact ⟨[_], List.prefix_append [_] [_], List.mem_singleton_self _, fun h => hprivate (List.mem_singleton.mp h)⟩

/-- Derivations close exactly if a class without a base class is itself the root base. -/
theorem acyclic_derives_iff (profile : Profile) (request : ClassRequest)
    (hne : ∀ baseName, request.baseName = some baseName → request.className ≠ baseName) :
    (∀ type, ¬Relation.TransGen (request.Derives profile) type type) ↔
      (request.baseName = none → request.className ≠ profile.rootBase) := by
  obtain ⟨className, baseName?⟩ := request
  cases baseName? with
  | none =>
      constructor
      · rintro hacyclic - rfl
        exact hacyclic _ (.single ((derives_iff_none profile).mpr ⟨rfl, rfl⟩))
      · intro hroot
        refine not_transGen_self [profile.rootBase] fun type parent hderives => ?_
        obtain ⟨rfl, rfl⟩ := (derives_iff_none profile).mp hderives
        exact ⟨_, List.prefix_refl _, List.mem_singleton_self _, fun h => hroot rfl (List.mem_singleton.mp h)⟩
  | some baseName => exact ⟨nofun, fun _ => not_transGen_derives_some profile (hne baseName rfl)⟩

end ClassRequest

/-- The headers of an accepted class declare the class and its private type and name what these derive from, and read
as C++ they declare nothing else. Neither of the two is among the types that are named exactly if, without a base
class, neither is the root base of the library and, with one, neither the class nor its base class is called what
the private type of the other is called. Derivations lead in no circle exactly if a class without a base class is
not the root base. -/
theorem parents_apart_iff {profile : Profile} {license : License} {request : ClassRequest} {files : List Artifact}
    (h : (planClass Template.renderer profile license request).result = .ok files) :
    (∃ header ∈ files, header.kind = .publicHeader ∧
      headLine (profile.exportMacro ++ " ") (request.publicHead profile) ++ ['\n'] <:+: header.content) ∧
    (∃ header ∈ files, header.kind = .privateHeader ∧
      headLine [] request.privateHead ++ ['\n'] <:+: header.content) ∧
    (profile.IsSpelled → ∃ code, CodeFiles.read? license files = some code ∧
      Cpp.heads code.publicHeader ++ Cpp.heads code.privateHeader = request.heads profile) ∧
    ((∀ type ∈ (request.heads profile).map Prod.fst, type ∉ (request.heads profile).filterMap Prod.snd) ↔
      match request.baseName with
      | none => request.className ≠ profile.rootBase ∧ request.className ++ "Private" ≠ profile.rootBase
      | some baseName => request.className ≠ baseName ++ "Private" ∧ baseName ≠ request.className ++ "Private") ∧
    ((∀ type, ¬Relation.TransGen (request.Derives profile) type type) ↔
      (request.baseName = none → request.className ≠ profile.rootBase)) := by
  obtain ⟨name, shape, hcheck, rfl⟩ := planClass_result_eq_ok_iff.mp h
  have haccepts := ClassRequest.accepts_of_check hcheck
  have hpublic : request.publicHead profile = (name.pascal, some (shape.parent profile)) := by
    rw [ClassRequest.publicHead, ← haccepts.pascal_eq, ← haccepts.base_pascal_eq]
    cases shape <;> rfl
  have hprivate : request.privateHead = (name.privateType, shape.privateParent?) := by
    rw [ClassRequest.privateHead, ← haccepts.pascal_eq, ← haccepts.base_pascal_eq]
    cases shape <;> rfl
  have hne : ∀ baseName, request.baseName = some baseName → request.className ≠ baseName := by
    intro baseName hbase heq
    have hsome : shape.base? = some (.derive baseName) := haccepts.base_eq.trans (congrArg _ hbase)
    have hlower := Shape.lower_ne_of_select (ClassRequest.check_eq_ok_iff.mp hcheck).2 _ hsome
    rw [haccepts.name_eq, heq] at hlower
    exact hlower rfl
  refine ⟨⟨_, List.mem_map_of_mem (by decide : ArtifactKind.publicHeader ∈ ArtifactKind.classSet), rfl, ?_⟩,
    ⟨_, List.mem_map_of_mem (by decide : ArtifactKind.privateHeader ∈ ArtifactKind.classSet), rfl, ?_⟩, ?_,
    request.parents_notMem_iff profile hne, request.acyclic_derives_iff profile hne⟩
  · rw [hpublic]
    exact headLine_infix_publicHeader profile license name shape
  · rw [hprivate]
    exact headLine_infix_privateHeader profile license name shape
  · intro hprofile
    refine ⟨_, CodeFiles.read?_planned license hprofile haccepts.name_isParsed haccepts.shape_isParsed, ?_⟩
    rw [ClassRequest.heads, hpublic, hprivate]
    change Cpp.heads (Outline.publicHeader profile name shape) ++
      Cpp.heads (Outline.privateHeader profile name shape) = _
    rw [Outline.heads_publicHeader, Outline.heads_privateHeader]
    rfl

/-- The types of `JobQueue` derive from those of `Job` and from none of their own. -/
theorem parents_apart_jobQueue :
    let license : License := ⟨2024, "// 2024\n"⟩
    let request : ClassRequest := ⟨"JobQueue", some "Job"⟩
    ∃ files, (planClass Template.renderer .synqClient license request).result = .ok files ∧
      Profile.synqClient.IsSpelled ∧
      (∃ code, CodeFiles.read? license files = some code ∧
        Cpp.heads code.publicHeader ++ Cpp.heads code.privateHeader = request.heads .synqClient) ∧
      (∀ type ∈ (request.heads .synqClient).map Prod.fst, type ∉ (request.heads .synqClient).filterMap Prod.snd) ∧
      ∀ type, ¬Relation.TransGen (request.Derives .synqClient) type type := by
  intro license request
  have hcheck : request.check = .ok (.derive "JobQueue", .derived (.derive "Job")) :=
    ClassRequest.check_of_isIdentifier (by decide +kernel) (by decide +kernel) (by decide +kernel)
  have hplan : (planClass Template.renderer .synqClient license request).result = .ok _ :=
    planClass_result_eq_ok_iff.mpr ⟨_, _, hcheck, rfl⟩
  obtain ⟨-, -, hread, hparents, hacyclic⟩ := parents_apart_iff hplan
  refine ⟨_, hplan, Profile.isSpelled_synqClient, hread Profile.isSpelled_synqClient, hparents.mpr ?_,
    hacyclic.mpr nofun⟩
  decide +kernel

/-- The class `QObject` is accepted without a base class and derives from itself, and the class `Foo` is accepted with
the base class `FooPrivate` and derives from the type that its own private header declares. -/
theorem not_parents_apart_qObject :
    let license : License := ⟨2024, "// 2024\n"⟩
    let alone : ClassRequest := ⟨"QObject", none⟩
    let derived : ClassRequest := ⟨"Foo", some "FooPrivate"⟩
    let apart := fun request : ClassRequest => ∀ type ∈ (request.heads .synqClient).map Prod.fst,
      type ∉ (request.heads .synqClient).filterMap Prod.snd
    (∃ files, (planClass Template.renderer .synqClient license alone).result = .ok files ∧ ¬apart alone ∧
      ∃ header ∈ files, "class LIBSYNQCLIENT_EXPORT QObject : public QObject\n" <:+: header.content) ∧
    (∃ files, (planClass Template.renderer .synqClient license derived).result = .ok files ∧ ¬apart derived ∧
      ∃ header ∈ files, "class LIBSYNQCLIENT_EXPORT Foo : public FooPrivate\n" <:+: header.content) := by
  intro license alone derived apart
  have hparse : ClassName.parse "QObject" = .ok (.derive "QObject") :=
    ClassName.parse_eq_ok_iff.mpr ⟨by decide +kernel, rfl⟩
  have hcheck : alone.check = .ok (.derive "QObject", .root) := ClassRequest.check_eq_ok_iff.mpr ⟨hparse, rfl⟩
  have hcheck' : derived.check = .ok (.derive "Foo", .derived (.derive "FooPrivate")) :=
    ClassRequest.check_of_isIdentifier (by decide +kernel) (by decide +kernel) (by decide +kernel)
  have hheader : ArtifactKind.publicHeader ∈ ArtifactKind.classSet := by decide
  refine ⟨⟨_, planClass_result_eq_ok_iff.mpr ⟨_, _, hcheck, rfl⟩, by decide +kernel,
      _, List.mem_map_of_mem hheader, ?_⟩,
    ⟨_, planClass_result_eq_ok_iff.mpr ⟨_, _, hcheck', rfl⟩, by decide +kernel,
      _, List.mem_map_of_mem hheader, ?_⟩⟩
  · have hline : ("class LIBSYNQCLIENT_EXPORT QObject : public QObject\n" : Text) =
        headLine (Profile.synqClient.exportMacro ++ " ") ("QObject", some (Shape.root.parent .synqClient)) ++
          ['\n'] := by
      decide +kernel
    rw [hline]
    exact headLine_infix_publicHeader .synqClient license (.derive "QObject") .root
  · have hline : ("class LIBSYNQCLIENT_EXPORT Foo : public FooPrivate\n" : Text) =
        headLine (Profile.synqClient.exportMacro ++ " ") ("Foo", some "FooPrivate") ++ ['\n'] := by
      decide +kernel
    rw [hline]
    exact headLine_infix_publicHeader .synqClient license (.derive "Foo") (.derived (.derive "FooPrivate"))

end Scaffold
