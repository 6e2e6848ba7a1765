import Scaffold.Proofs.Include
import Scaffold.Proofs.Inheritance

/-! Whether the public header of a class includes what the class derives from. A base class is always included, by
the header without an extension that bears its name. The root base of the library is not: three headers are included
by names that are fixed, whatever the root base is called, and so only one with such a name is. -/

namespace Scaffold

namespace Cpp

/-- The name that a line includes, be it in quotes or in angle brackets. -/
def included? (line : Text) : Option Text :=
  match skipBlanks line with
  | '#' :: directive =>
    if ("include" : Text).isPrefixOf (skipBlanks directive) then
      match skipBlanks ((skipBlanks directive).drop 7) with
      | '"' :: name => some (name.takeWhile (· ≠ '"'))
      | '<' :: name => some (name.takeWhile (· ≠ '>'))
      | _ => none
    else none
  | _ => none

/-- The names that a file includes, in order. -/
def includes (text : Text) : List Text := (Text.lines text).filterMap included?

/-- The directive that includes a name in angle brackets. -/
def angled (name : Text) : Text := "#include <" ++ name ++ ">"

/-- The directive that includes a name in quotes. -/
def quoted (name : Text) : Text := "#include \"" ++ name ++ "\""

theorem quoted_slash (directory file : Text) :
    quoted (directory ++ '/' :: file) = "#include \"" ++ directory ++ "/" ++ file ++ "\"" := by
  have hjoin : ∀ start slash : Text, start ++ (directory ++ (slash ++ file)) = start ++ directory ++ slash ++ file := by
    intro start slash
    simp only [List.append_assoc]
  exact congrArg (· ++ ("\"" : Text)) (hjoin "#include \"" "/")

/-- A name that holds no quotation mark ends with the one behind it. -/
theorem takeWhile_quoted {name : Text} (hname : '"' ∉ name) : (name ++ ['"']).takeWhile (· ≠ '"') = name := by
  rw [takeWhile_append_of_notMem hname]
  exact List.append_nil name

end Cpp

/-- The names of headers that every public header includes. -/
def fixedIncludes : List Text := ["QObject", "QScopedPointer", "QtGlobal"]

namespace ClassRequest

/-- What the class derives from. -/
def parent (profile : Profile) (request : ClassRequest) : Text := request.baseName.getD profile.rootBase

/-- The names that the public header includes. -/
def included (profile : Profile) (request : ClassRequest) : List Text :=
  fixedIncludes ++ (request.baseName.map (profile.nameSpace ++ '/' :: ·)).toList ++
    [profile.nameSpace ++ '/' :: profile.globalHeader]

end ClassRequest

/-- One of the names has the type as its last component. -/
def Introduces (names : List Text) (type : Text) : Prop := ∃ name ∈ names, Path.fileName? name = some type

theorem Path.IsFileName.fileName? {file : Text} (hfile : Path.IsFileName file) : Path.fileName? file = some file := by
  rw [Path.fileName?, hfile.components.2]
  rfl

theorem Path.IsFileName.fileName?_slash {file : Text} (hfile : Path.IsFileName file) (directory : Text) :
    Path.fileName? (directory ++ '/' :: file) = some file := by
  rw [Path.fileName?, components_eq, steps_append_slash, hfile.steps, ← List.append_assoc, List.getLast?_concat]

/-! ### What is included -/

variable {profile : Profile} {name : ClassName} {shape : Shape}

theorem isFileName_of_mem_fixedIncludes {header : Text} (h : header ∈ fixedIncludes) : Path.IsFileName header := by
  have hidentifier : fixedIncludes.all isIdentifier = true := by decide
  exact .of_isIdentifier (List.all_eq_true.mp hidentifier header h)

/-- The parent of the class is introduced exactly if it is a base class, or if the root base is called like one of
the headers that are always included. -/
theorem introduces_included_iff (profile : Profile) (request : ClassRequest)
    (hbase : ∀ baseName, request.baseName = some baseName → isIdentifier baseName = true) :
    Introduces (request.included profile) (request.parent profile) ↔
      (request.baseName = none → profile.rootBase ∈ fixedIncludes ∨
        Path.fileName? (profile.nameSpace ++ '/' :: profile.globalHeader) = some profile.rootBase) := by
  obtain ⟨className, baseName?⟩ := request
  cases baseName? with
  | some baseName =>
      have hfile : Path.IsFileName baseName := .of_isIdentifier (hbase baseName rfl)
      have hmem : profile.nameSpace ++ '/' :: baseName ∈ ClassRequest.included profile ⟨className, some baseName⟩ :=
        List.mem_append_left _ (List.mem_append_right _ (List.mem_singleton_self _))
      exact ⟨fun _ => nofun, fun _ => ⟨_, hmem, hfile.fileName?_slash _⟩⟩
  | none =>
      have hincluded : ClassRequest.included profile ⟨className, none⟩ =
          fixedIncludes ++ [profile.nameSpace ++ '/' :: profile.globalHeader] := rfl
      rw [Introduces, hincluded, ClassRequest.parent, Option.getD_none]
      constructor
      · rintro ⟨header, hmem, hlast⟩ -
        rcases List.mem_append.mp hmem with hfixed | hglobal
        · rw [(isFileName_of_mem_fixedIncludes hfixed).fileName?] at hlast
          exact Or.inl (Option.some.inj hlast ▸ hfixed)
        · exact Or.inr (List.mem_singleton.mp hglobal ▸ hlast)
      · intro h
        rcases h rfl with hfixed | hglobal
        · exact ⟨_, List.mem_append_left _ hfixed, (isFileName_of_mem_fixedIncludes hfixed).fileName?⟩
        · exact ⟨_, List.mem_append_right _ (List.mem_singleton_self _), hglobal⟩

/-! ### What the header says -/

theorem fixed_mem_publicHeader (profile : Profile) (name : ClassName) (shape : Shape) {header : Text}
    (h : header ∈ fixedIncludes) : Cpp.angled header ∈ Content.publicHeader profile name shape := by
  rw [fixedIncludes, List.mem_cons, List.mem_cons, List.mem_singleton] at h
  rcases h with rfl | rfl | rfl
  · exact List.mem_of_getElem? (i := 3) rfl
  · exact List.mem_of_getElem? (i := 4) rfl
  · exact List.mem_of_getElem? (i := 5) rfl

theorem base_mem_publicHeader (profile : Profile) (name base : ClassName) :
    Cpp.quoted (profile.nameSpace ++ '/' :: base.pascal) ∈ Content.publicHeader profile name (.derived base) := by
  rw [Cpp.quoted_slash]
  exact List.mem_of_getElem? (i := 7) rfl

/-- The lines of the header are read by what they start with, whatever the names in them are. -/
theorem filterMap_included?_publicHeader (profile : Profile) (name : ClassName) (shape : Shape) :
    (Content.publicHeader profile name shape).filterMap Cpp.included? =
      fixedIncludes ++
        shape.choose [] (fun base => [(profile.nameSpace ++ "/" ++ base.pascal ++ ['"']).takeWhile (· ≠ '"')]) ++
        [(profile.nameSpace ++ "/" ++ profile.globalHeader ++ ['"']).takeWhile (· ≠ '"')] := by
  cases shape <;> rfl

theorem isLine_of_mem_publicHeader (hprofile : profile.IsSpelled) (hname : name.IsParsed) (hshape : shape.IsParsed) :
    ∀ line ∈ ArtifactKind.publicHeader.lines profile name shape, Text.isLine line = true := by
  apply ArtifactKind.publicHeader.lines_isLine hprofile hname hshape
  intro hkind
  cases hkind

theorem includes_publicHeader (hprofile : profile.IsSpelled) (hname : name.IsParsed) (hshape : shape.IsParsed) :
    Cpp.includes (Text.ofLines (ArtifactKind.publicHeader.lines profile name shape)) =
      fixedIncludes ++ shape.choose [] (fun base => [profile.nameSpace ++ '/' :: base.pascal]) ++
        [profile.nameSpace ++ '/' :: profile.globalHeader] := by
  have hspace : '"' ∉ profile.nameSpace := (isWord_of_isIdentifier hprofile.nameSpace).notMem (by decide)
  have hglobal : '"' ∉ profile.globalHeader := by
    intro hmem
    exact absurd (List.all_eq_true.mp hprofile.globalHeader _ hmem) (by decide)
  have hquoted : ∀ file : Text, '"' ∉ file →
      (profile.nameSpace ++ "/" ++ file ++ ['"']).takeWhile (· ≠ '"') = profile.nameSpace ++ '/' :: file := by
    intro file hfile
    have hslash : '"' ∉ ("/" : Text) := by decide
    rw [Cpp.takeWhile_quoted, List.append_assoc]
    · rfl
    · simp only [List.mem_append, hspace, hslash, hfile, or_self, not_false_eq_true]
  rw [Cpp.includes, Text.lines_ofLines (isLine_of_mem_publicHeader hprofile hname hshape)]
  refine (filterMap_included?_publicHeader profile name shape).trans ?_
  rw [hquoted _ hglobal]
  cases shape with
  | root => rfl
  | derived base =>
      have hparsed : base.IsParsed := hshape base rfl
      rw [Shape.choose_derived, Shape.choose_derived, hquoted _ (hparsed.pascal_isWord.notMem (by decide))]

/-- The public header of an accepted class names what the class derives from. It includes the headers with fixed names
and, by its own name, a base class, whatever the conventions of the library are. Read as C++ with conventions that are
spelled as source code needs them, it declares the class alone and includes these headers and the global one alone; it
then introduces what the class derives from exactly if that is a base class, or if the root base has the name of one
of the fixed headers or of the global one. -/
theorem parent_introduced_iff {profile : Profile} {license : License} {request : ClassRequest} {files : List Artifact}
    (h : (planClass Template.renderer profile license request).result = .ok files) :
    ∃ header ∈ files, header.kind = .publicHeader ∧
      headLine (profile.exportMacro ++ " ") (request.publicHead profile) ++ ['\n'] <:+: header.content ∧
      (∀ name ∈ fixedIncludes, Cpp.angled name ++ ['\n'] <:+: header.content ∧ Path.fileName? name = some name) ∧
      (∀ baseName, request.baseName = some baseName →
        Cpp.quoted (profile.nameSpace ++ '/' :: baseName) ++ ['\n'] <:+: header.content ∧
        Path.fileName? (profile.nameSpace ++ '/' :: baseName) = some baseName) ∧
      (profile.IsSpelled → ∃ body, header.body? license = some body ∧
        (Cpp.outline? body).map Cpp.heads = some [request.publicHead profile] ∧
        Cpp.includes body = request.included profile ∧
        (Introduces (Cpp.includes body) (request.parent profile) ↔
          (request.baseName = none → profile.rootBase ∈ fixedIncludes ∨
            Path.fileName? (profile.nameSpace ++ '/' :: profile.globalHeader) = some profile.rootBase))) := by
  obtain ⟨name, shape, hcheck, rfl⟩ := planClass_result_eq_ok_iff.mp h
  have haccepts := ClassRequest.accepts_of_check hcheck
  have hname := haccepts.name_isParsed
  have hshape := haccepts.shape_isParsed
  have hhead : request.publicHead profile = (name.pascal, some (shape.parent profile)) := by
    rw [ClassRequest.publicHead, ← haccepts.pascal_eq, ← haccepts.base_pascal_eq]
    cases shape <;> rfl
  have hincluded : request.included profile =
      fixedIncludes ++ shape.choose [] (fun base => [profile.nameSpace ++ '/' :: base.pascal]) ++
        [profile.nameSpace ++ '/' :: profile.globalHeader] := by
    rw [ClassRequest.included, ← haccepts.base_pascal_eq]
    cases shape <;> rfl
  have hbase : ∀ baseName, request.baseName = some baseName →
      shape = .derived (.derive baseName) ∧ isIdentifier baseName = true := by
    intro baseName hsome
    have heq : shape.base? = some (.derive baseName) := haccepts.base_eq.trans (congrArg _ hsome)
    have hidentifier : isIdentifier baseName = true := (hshape _ heq).isIdentifier
    cases shape with
    | root => cases heq
    | derived base => exact ⟨congrArg _ (Option.some.inj heq), hidentifier⟩
  refine ⟨_, List.mem_map_of_mem (by decide : ArtifactKind.publicHeader ∈ ArtifactKind.classSet), rfl, ?_, ?_, ?_, ?_⟩
  · rw [hhead]
    exact headLine_infix_publicHeader profile license name shape
  · intro header hfixed
    exact ⟨ArtifactKind.publicHeader.line_infix_planned license (fixed_mem_publicHeader profile name shape hfixed),
      (isFileName_of_mem_fixedIncludes hfixed).fileName?⟩
  · intro baseName hsome
    obtain ⟨rfl, hidentifier⟩ := hbase baseName hsome
    have hline := base_mem_publicHeader profile name (.derive baseName)
    exact ⟨ArtifactKind.publicHeader.line_infix_planned license hline,
      (Path.IsFileName.of_isIdentifier hidentifier).fileName?_slash profile.nameSpace⟩
  · intro hprofile
    have hlines := isLine_of_mem_publicHeader hprofile hname hshape
    have hincludes := (includes_publicHeader hprofile hname hshape).trans hincluded.symm
    refine ⟨_, ArtifactKind.publicHeader.body?_planned profile license name shape, ?_, hincludes, ?_⟩
    · rw [Cpp.outline?_ofLines hlines, hhead]
      change ((Content.publicHeader profile name shape).mapM Cpp.Line.ofText?).map Cpp.heads = _
      rw [mapM_ofText?_publicHeader hprofile hname hshape, Option.map_some, Outline.heads_publicHeader]
    · rw [hincludes]
      exact introduces_included_iff profile request fun baseName hsome => (hbase baseName hsome).2

/-- The header of `JobQueue` introduces the base class `Job`, and that of `Job` the root base. -/
theorem parent_introduced_jobQueue :
    let license : License := ⟨2024, "// 2024\n"⟩
    ∀ request ∈ ([⟨"JobQueue", some "Job"⟩, ⟨"Job", none⟩] : List ClassRequest),
      ∃ files, (planClass Template.renderer .synqClient license request).result = .ok files ∧
        Profile.synqClient.IsSpelled ∧ ∃ header ∈ files, ∃ body, header.body? license = some body ∧
          Introduces (Cpp.includes body) (request.parent .synqClient) := by
  intro license request hrequest
  have hcheck : ∃ name shape, request.check = .ok (name, shape) := by
    rw [List.mem_cons, List.mem_singleton] at hrequest
    rcases hrequest with rfl | rfl
    · exact ⟨_, _, ClassRequest.check_of_isIdentifier (by decide) (by decide) (by decide)⟩
    · have hparse : ClassName.parse "Job" = .ok (.derive "Job") :=
        ClassName.parse_eq_ok_iff.mpr ⟨by decide, rfl⟩
      exact ⟨_, .root, ClassRequest.check_eq_ok_iff.mpr ⟨hparse, rfl⟩⟩
  obtain ⟨name, shape, hcheck⟩ := hcheck
  have hplan : (planClass Template.renderer .synqClient license request).result = .ok _ :=
    planClass_result_eq_ok_iff.mpr ⟨_, _, hcheck, rfl⟩
  obtain ⟨header, hmem, -, -, -, -, hread⟩ := parent_introduced_iff hplan
  obtain ⟨body, hbody, -, -, hiff⟩ := hread Profile.isSpelled_synqClient
  exact ⟨_, hplan, Profile.isSpelled_synqClient, header, hmem, body, hbody,
    hiff.mpr fun _ => Or.inl (by decide)⟩

/-- A library whose root base is `SyncObject`: the header of `Foo` derives it from a type that it does not introduce. -/
theorem not_parent_introduced_syncObject :
    let license : License := ⟨2024, "// 2024\n"⟩
    let profile : Profile := { Profile.synqClient with rootBase := "SyncObject" }
    ∃ files, (planClass Template.renderer profile license ⟨"Foo", none⟩).result = .ok files ∧ profile.IsSpelled ∧
      ∃ header ∈ files, header.kind = .publicHeader ∧
        "class LIBSYNQCLIENT_EXPORT Foo : public SyncObject\n" <:+: header.content ∧
        ∃ body, header.body? license = some body ∧ ¬Introduces (Cpp.includes body) "SyncObject" := by
  intro license profile
  have hparse : ClassName.parse "Foo" = .ok (.derive "Foo") :=
    ClassName.parse_eq_ok_iff.mpr ⟨by decide, rfl⟩
  have hcheck : ClassRequest.check ⟨"Foo", none⟩ = .ok (.derive "Foo", .root) :=
    ClassRequest.check_eq_ok_iff.mpr ⟨hparse, rfl⟩
  have hprofile : profile.IsSpelled := { Profile.isSpelled_synqClient with rootBase := by decide }
  have hname : (ClassName.derive "Foo").IsParsed := ClassName.isParsed_of_parse hparse
  have hline : ("class LIBSYNQCLIENT_EXPORT Foo : public SyncObject\n" : Text) =
      headLine (profile.exportMacro ++ " ") ("Foo", some (Shape.root.parent profile)) ++ ['\n'] := by decide
  refine ⟨_, planClass_result_eq_ok_iff.mpr ⟨_, _, hcheck, rfl⟩, hprofile, _,
    List.mem_map_of_mem (by decide : ArtifactKind.publicHeader ∈ ArtifactKind.classSet), rfl, ?_, _,
    ArtifactKind.publicHeader.body?_planned profile license (.derive "Foo") .root, ?_⟩
  · rw [hline]
    exact headLine_infix_publicHeader profile license (.derive "Foo") .root
  · rw [includes_publicHeader hprofile hname Shape.isParsed_root]
    intro hintroduces
    have hroot := (introduces_included_iff profile ⟨"Foo", none⟩ nofun).mp hintroduces rfl
    rcases hroot with hfixed | hglobal
    · exact absurd hfixed (by decide)
    · exact absurd hglobal (by decide)

end Scaffold
