import Mathlib.Data.List.Defs
import Scaffold.Proofs.Artifact.FileName
import Scaffold.Proofs.Cpp.Quoted
import Scaffold.Proofs.Path.Normal
import Scaffold.Proofs.Plan
import Scaffold.Proofs.Spelling

/-! Where the include directives of the generated files lead. A file is named in a directive by a name of its
own, by the name of the library and its own, or by a step out of the sources down to the public headers; from
the directory of the including file or from the root of the public headers each of these names leads to the
path that the file really has. -/

namespace Scaffold

/-- Conventions that are spelled as source code needs them, with relative directories that have no steps up
in them. -/
structure Profile.IsLaidOut (profile : Profile) : Prop extends profile.IsSpelled where
  globalHeader_start : profile.globalHeader.head?.any isIdentifierStart = true
  testRegistrationMacro : isIdentifier profile.testRegistrationMacro = true
  libraryDir : Path.IsNames (Path.components profile.libraryDir)
  testsDir : Path.IsNames (Path.components profile.testsDir)

/-- A name in quotes leads from a file to another, seen from the directory of the including file or from the
root of the public headers. -/
def Reaches (profile : Profile) (file spelled target : Text) : Prop :=
  Path.resolve (Path.components file).dropLast spelled = Path.components target ∨
  Path.resolve (Path.components (Path.join profile.libraryDir "inc")) spelled = Path.components target

namespace ArtifactKind

/-- The names in quotes that a file includes, as they are spelled there. -/
def quoted (profile : Profile) (name : ClassName) (shape : Shape) : ArtifactKind → List Text
  | .publicHeader =>
    shape.choose [] (fun base => [profile.nameSpace ++ '/' :: includeShim.fileName base]) ++
      [profile.nameSpace ++ '/' :: profile.globalHeader]
  | .includeShim => [publicHeader.fileName name]
  | .publicSource =>
    ["../inc/" ++ (profile.nameSpace ++ '/' :: publicHeader.fileName name), privateHeader.fileName name]
  | .privateHeader =>
    shape.choose [] (fun base => [privateHeader.fileName base]) ++
      [profile.nameSpace ++ '/' :: publicHeader.fileName name]
  | .privateSource => [privateHeader.fileName name]
  | .testSource => [profile.nameSpace ++ '/' :: includeShim.fileName name, "tst_" ++ name.lower ++ ".moc"]
  | .testProject | .testRegistration => []

/-- The files that a file includes in quotes. -/
def included (profile : Profile) (name : ClassName) (base? : Option ClassName) : ArtifactKind → List Text
  | .publicHeader =>
    (base?.map (includeShim.path profile)).toList ++ [Path.join profile.includeDir profile.globalHeader]
  | .includeShim => [publicHeader.path profile name]
  | .publicSource => [publicHeader.path profile name, privateHeader.path profile name]
  | .privateHeader => (base?.map (privateHeader.path profile)).toList ++ [publicHeader.path profile name]
  | .privateSource => [privateHeader.path profile name]
  | .testSource =>
    [includeShim.path profile name, Path.join (profile.testDir name.lower) ("tst_" ++ name.lower ++ ".moc")]
  | .testProject | .testRegistration => []

/-! ### Reading the directives -/

variable {profile : Profile} {name : ClassName} {shape : Shape}

theorem filterMap_quoted? (hprofile : profile.IsLaidOut) (hname : name.IsParsed) (hshape : shape.IsParsed)
    (kind : ArtifactKind) :
    (kind.lines profile name shape).filterMap Cpp.quoted? = kind.quoted profile name shape := by
  have hplain := Cpp.isPlain_of_isIdentifier hname.isIdentifier
  have hplainPrivate := Cpp.isPlain_of_isIdentifier (ClassName.isIdentifier_privateType hname)
  have hplainMacro := Cpp.isPlain_of_isIdentifier hprofile.testRegistrationMacro
  have hspace : '"' ∉ profile.nameSpace := (isWord_of_isIdentifier hprofile.nameSpace).notMem (by decide)
  have hglobal : '"' ∉ profile.globalHeader := by
    intro hmem
    exact absurd (List.all_eq_true.mp hprofile.globalHeader _ hmem) (by decide)
  have hpascal : '"' ∉ name.pascal := hname.pascal_isWord.notMem (by decide)
  have hlower : '"' ∉ name.lower := hname.lower_isWord.notMem (by decide)
  have hbase : '"' ∉ (shape.choose name id).pascal ∧ '"' ∉ (shape.choose name id).lower := by
    cases shape with
    | root => exact ⟨hpascal, hlower⟩
    | derived base =>
        have hparsed : base.IsParsed := hshape base rfl
        exact ⟨hparsed.pascal_isWord.notMem (by decide), hparsed.lower_isWord.notMem (by decide)⟩
  obtain ⟨hbasePascal, hbaseLower⟩ := hbase
  have hquote : ("\"" : Text).takeWhile (· ≠ '"') = [] := rfl
  cases kind
  all_goals cases shape
  all_goals
    simp only [Shape.choose_root, Shape.choose_derived, id_eq] at hbasePascal hbaseLower
    simp (disch := first | with_reducible assumption | decide) only
      [-String.reduceToList, lines, quoted, Content.publicHeader, Content.includeShim, Content.publicSource,
      Content.privateHeader, Content.privateSource, Content.testProject, Content.testRegistration,
      Content.testSource, fileName_publicHeader, fileName_includeShim, fileName_privateHeader,
      Shape.choose_root, Shape.choose_derived, List.filterMap_cons, List.filterMap_nil, List.append_assoc,
      List.cons_append, List.nil_append, Cpp.quoted?_empty, Cpp.quoted?_ifndef, Cpp.quoted?_define,
      Cpp.quoted?_endif, Cpp.quoted?_include, Cpp.quoted?_include_up, Cpp.quoted?_include_test,
      Cpp.quoted?_indented, Cpp.quoted?_of_isPrefixOf, Cpp.quoted?_append, Cpp.quoted?_of_isPlain,
      Cpp.takeWhile_append_of_notMem, hquote, List.append_nil]
  all_goals rfl

end ArtifactKind

/-! ### Following the directives -/

namespace Profile

theorem components_includeRoot (profile : Profile) :
    Path.components (Path.join profile.libraryDir "inc") =
      Path.components profile.libraryDir ++ [.name "inc"] :=
  Path.components_join_name (Path.IsFileName.of_isIdentifier (by decide +kernel)) _

theorem components_sourceDir (profile : Profile) :
    Path.components profile.sourceDir = Path.components profile.libraryDir ++ [.name "src"] :=
  Path.components_join_name (Path.IsFileName.of_isIdentifier (by decide +kernel)) _

namespace IsLaidOut

variable {profile : Profile}

theorem isFileName_nameSpace (hprofile : profile.IsLaidOut) : Path.IsFileName profile.nameSpace :=
  Path.IsFileName.of_isIdentifier hprofile.nameSpace

theorem isFileName_globalHeader (hprofile : profile.IsLaidOut) : Path.IsFileName profile.globalHeader := by
  have hstart := hprofile.globalHeader_start
  have hspelled := hprofile.globalHeader
  cases hglobal : profile.globalHeader with
  | nil => rw [hglobal] at hstart; exact absurd hstart (by decide)
  | cons c cs =>
      rw [hglobal, List.head?_cons, Option.any_some] at hstart
      have hword : IsWord [c] := fun d hd =>
        List.mem_singleton.mp hd ▸ isIdentifierPart_of_isIdentifierStart hstart
      refine Path.IsFileName.of_word_append hword (List.cons_ne_nil c []) ?_
      intro hmem
      rw [hglobal] at hspelled
      exact absurd (List.all_eq_true.mp hspelled _ (List.mem_cons_of_mem c hmem)) (by decide)

theorem components_includeDir (hprofile : profile.IsLaidOut) :
    Path.components profile.includeDir =
      Path.components profile.libraryDir ++ [.name "inc", .name profile.nameSpace] := by
  rw [Profile.includeDir, Path.components_join_name hprofile.isFileName_nameSpace, components_includeRoot,
    List.append_assoc]
  rfl

theorem isNames_includeDir (hprofile : profile.IsLaidOut) : Path.IsNames (Path.components profile.includeDir) := by
  rw [hprofile.components_includeDir]
  exact hprofile.libraryDir.append ((Path.IsNames.singleton _).append (Path.IsNames.singleton _))

theorem isNames_includeRoot (hprofile : profile.IsLaidOut) :
    Path.IsNames (Path.components (Path.join profile.libraryDir "inc")) := by
  rw [profile.components_includeRoot]
  exact hprofile.libraryDir.append (Path.IsNames.singleton _)

/-- From a directory beside that of the public headers, a step up and down again leads to a public header. -/
theorem resolve_up (hprofile : profile.IsLaidOut) (directory : Text) {header : Text}
    (hheader : Path.IsFileName header) :
    Path.resolve (Path.components profile.libraryDir ++ [.name directory])
        ("../inc/" ++ (profile.nameSpace ++ '/' :: header)) =
      Path.components profile.libraryDir ++ [.name "inc", .name profile.nameSpace, .name header] := by
  have hinc : Path.IsFileName "inc" := Path.IsFileName.of_isIdentifier (by decide +kernel)
  exact Path.resolve_up hprofile.libraryDir directory hinc hprofile.isFileName_nameSpace hheader

theorem isNames_sourceDir (hprofile : profile.IsLaidOut) : Path.IsNames (Path.components profile.sourceDir) := by
  rw [profile.components_sourceDir]
  exact hprofile.libraryDir.append (Path.IsNames.singleton _)

theorem isNames_testDir (hprofile : profile.IsLaidOut) {lower : Text} (hlower : Path.IsFileName lower) :
    Path.IsNames (Path.components (profile.testDir lower)) := by
  rw [Profile.testDir, Path.components_join_name hlower]
  exact hprofile.testsDir.append (Path.IsNames.singleton _)

end IsLaidOut

end Profile

namespace Reaches

variable {target : Text}

/-- A file name leads to the file of that name in the same directory. -/
theorem beside (profile : Profile) {directory : List Path.Component} {file spelled fileName : Text}
    (hdirectory : Path.IsNames directory) (hfile : Path.components file = directory ++ [.name fileName])
    (hspelled : Path.IsFileName spelled) (htarget : Path.components target = directory ++ [.name spelled]) :
    Reaches profile file spelled target := by
  left
  rw [hfile, List.dropLast_concat, Path.resolve_name hdirectory hspelled, htarget]

/-- A name of a public header behind the name of the library leads to that header from everywhere. -/
theorem below (file : Text) {profile : Profile} (hprofile : profile.IsLaidOut) {header : Text}
    (hheader : Path.IsFileName header)
    (htarget : Path.components target = Path.components profile.includeDir ++ [.name header]) :
    Reaches profile file (profile.nameSpace ++ '/' :: header) target := by
  right
  rw [Path.resolve_slash hprofile.isNames_includeRoot hprofile.isFileName_nameSpace hheader, htarget,
    profile.components_includeRoot, hprofile.components_includeDir]
  simp only [List.append_assoc, List.cons_append, List.nil_append]

/-- A step up from the sources leads past their directory to the public headers. -/
theorem up {profile : Profile} (hprofile : profile.IsLaidOut) {file header fileName : Text}
    (hheader : Path.IsFileName header)
    (hfile : Path.components file = Path.components profile.sourceDir ++ [.name fileName])
    (htarget : Path.components target = Path.components profile.includeDir ++ [.name header]) :
    Reaches profile file ("../inc/" ++ (profile.nameSpace ++ '/' :: header)) target := by
  left
  rw [hfile, List.dropLast_concat, profile.components_sourceDir,
    hprofile.resolve_up "src" hheader, htarget, hprofile.components_includeDir, List.append_assoc]
  rfl

end Reaches

namespace ArtifactKind

variable {profile : Profile} {name : ClassName} {shape : Shape}

/-- What a file includes in quotes leads to what it is meant to include. -/
theorem forall₂_reaches (hprofile : profile.IsLaidOut) (hname : name.IsParsed) (hshape : shape.IsParsed)
    (kind : ArtifactKind) :
    List.Forall₂ (Reaches profile (kind.path profile name)) (kind.quoted profile name shape)
      (kind.included profile name shape.base?) := by
  have hpath := fun kind => components_path profile hname kind
  have hfile := fun kind => isFileName_fileName hname kind
  cases kind with
  | publicHeader =>
      have hglobal : Reaches profile (publicHeader.path profile name)
          (profile.nameSpace ++ '/' :: profile.globalHeader) (Path.join profile.includeDir profile.globalHeader) :=
        Reaches.below _ hprofile hprofile.isFileName_globalHeader
          (Path.components_join_name hprofile.isFileName_globalHeader _)
      cases shape with
      | root => exact .cons hglobal .nil
      | derived base =>
          have hbase : base.IsParsed := hshape base rfl
          have hshim := Reaches.below (publicHeader.path profile name) hprofile
            (isFileName_fileName hbase .includeShim) (components_path profile hbase .includeShim)
          exact .cons hshim (.cons hglobal .nil)
  | includeShim =>
      exact .cons (Reaches.beside profile hprofile.isNames_includeDir (hpath .includeShim) (hfile .publicHeader)
        (hpath .publicHeader)) .nil
  | publicSource =>
      have hheader := Reaches.up hprofile (hfile .publicHeader) (hpath .publicSource) (hpath .publicHeader)
      have hprivate := Reaches.beside profile hprofile.isNames_sourceDir (hpath .publicSource) (hfile .privateHeader)
        (hpath .privateHeader)
      exact .cons hheader (.cons hprivate .nil)
  | privateHeader =>
      have hheader := Reaches.below (privateHeader.path profile name) hprofile (hfile .publicHeader)
        (hpath .publicHeader)
      cases shape with
      | root => exact .cons hheader .nil
      | derived base =>
          have hbase : base.IsParsed := hshape base rfl
          have hprivate := Reaches.beside profile hprofile.isNames_sourceDir (hpath .privateHeader)
            (isFileName_fileName hbase .privateHeader) (components_path profile hbase .privateHeader)
          exact .cons hprivate (.cons hheader .nil)
  | privateSource =>
      exact .cons (Reaches.beside profile hprofile.isNames_sourceDir (hpath .privateSource) (hfile .privateHeader)
        (hpath .privateHeader)) .nil
  | testProject => exact .nil
  | testRegistration => exact .nil
  | testSource =>
      have hmoc : Path.IsFileName ("tst_" ++ name.lower ++ ".moc") :=
        Path.IsFileName.of_word_append (stem_isWord hname .testSource) (stem_ne_nil hname .testSource) (by decide)
      have hlower := Path.IsFileName.of_isWord hname.lower_isWord hname.lower_ne_nil
      have hshim := Reaches.below (testSource.path profile name) hprofile (hfile .includeShim)
        (hpath .includeShim)
      have hown := Reaches.beside profile (hprofile.isNames_testDir hlower) (hpath .testSource) hmoc
        (Path.components_join_name hmoc _)
      exact .cons hshim (.cons hown .nil)

theorem quotedIncludes_lines (hprofile : profile.IsLaidOut) (hname : name.IsParsed) (hshape : shape.IsParsed)
    (kind : ArtifactKind) :
    Cpp.quotedIncludes (Text.ofLines (kind.lines profile name shape)) = kind.quoted profile name shape := by
  have hmacro := Text.isLine_of_isWord (isWord_of_isIdentifier hprofile.testRegistrationMacro)
  have hlines := kind.lines_isLine hprofile.toIsSpelled hname hshape fun _ => hmacro
  rw [Cpp.quotedIncludes, Text.lines_ofLines hlines, kind.filterMap_quoted? hprofile hname hshape]

end ArtifactKind

/-- The files of an accepted class and of an accepted test are those of their kinds. Every name in quotes that one of
them includes behind the preamble leads to the file that is meant, and each file includes in this way the files that it
needs, in order, and no others. -/
theorem includes_reach {profile : Profile} (hprofile : profile.IsLaidOut) :
    (∀ license request artifacts,
      (planClass Template.renderer profile license request).result = .ok artifacts →
      artifacts.map Artifact.kind = ArtifactKind.classSet ∧
      ∀ artifact ∈ artifacts, ∃ body, artifact.body? license = some body ∧
        List.Forall₂ (Reaches profile artifact.path) (Cpp.quotedIncludes body)
          (artifact.kind.included profile (.derive request.className) (request.baseName.map .derive))) ∧
    (∀ className artifacts,
      (planTest Template.renderer profile className).result = .ok artifacts →
      artifacts.map Artifact.kind = ArtifactKind.testSet ∧
      ∀ artifact ∈ artifacts,
        List.Forall₂ (Reaches profile artifact.path) (Cpp.quotedIncludes artifact.content)
          (artifact.kind.included profile (.derive className) none)) := by
  constructor
  · intro license request artifacts hplan
    obtain ⟨name, shape, hcheck, rfl⟩ := planClass_result_eq_ok_iff.mp hplan
    refine ⟨rfl, fun artifact hartifact => ?_⟩
    obtain ⟨hname, hshape, hderive, hbase⟩ := ClassRequest.accepts_of_check hcheck
    obtain ⟨kind, -, rfl⟩ := List.mem_map.mp hartifact
    refine ⟨_, kind.body?_planned profile license name shape, ?_⟩
    rw [kind.quotedIncludes_lines hprofile hname hshape, ← hderive, ← hbase]
    exact kind.forall₂_reaches hprofile hname hshape
  · intro className artifacts hplan
    obtain ⟨name, hparse, rfl⟩ := planTest_result_eq_ok_iff.mp hplan
    refine ⟨rfl, fun artifact hartifact => ?_⟩
    obtain ⟨kind, -, rfl⟩ := List.mem_map.mp hartifact
    have hname := ClassName.isParsed_of_parse hparse
    have hroot : Shape.root.IsParsed := fun base hbase => nomatch hbase
    obtain ⟨-, rfl⟩ := ClassName.parse_eq_ok_iff.mp hparse
    show List.Forall₂ _ (Cpp.quotedIncludes (Text.ofLines (kind.lines profile _ .root))) _
    rw [kind.quotedIncludes_lines hprofile hname hroot]
    exact kind.forall₂_reaches hprofile hname hroot

theorem Profile.isLaidOut_synqClient : Profile.synqClient.IsLaidOut := by
  have hdirectory : ∀ {w : Text}, isIdentifier w = true → Path.IsNames (Path.components w) := by
    intro w hw
    rw [(Path.IsFileName.of_isIdentifier hw).components.2]
    exact Path.IsNames.singleton w
  exact ⟨Profile.isSpelled_synqClient, by decide +kernel, by decide +kernel, hdirectory (by decide +kernel),
    hdirectory (by decide +kernel)⟩

/-- The files of the class `JobQueue` with the base class `Job` and those of its test include what they need. -/
theorem includes_reach_jobQueue :
    Profile.synqClient.IsLaidOut ∧
    (∃ artifacts,
      (planClass Template.renderer .synqClient ⟨2024, "// 2024\n"⟩ ⟨"JobQueue", some "Job"⟩).result =
        .ok artifacts ∧
      artifacts.map Artifact.kind = ArtifactKind.classSet ∧
      ∀ artifact ∈ artifacts, ∃ body, artifact.body? ⟨2024, "// 2024\n"⟩ = some body ∧
        List.Forall₂ (Reaches .synqClient artifact.path) (Cpp.quotedIncludes body)
          (artifact.kind.included .synqClient (.derive "JobQueue") (some (.derive "Job")))) ∧
    (∃ artifacts,
      (planTest Template.renderer .synqClient "JobQueue").result = .ok artifacts ∧
      artifacts.map Artifact.kind = ArtifactKind.testSet ∧
      ∀ artifact ∈ artifacts,
        List.Forall₂ (Reaches .synqClient artifact.path) (Cpp.quotedIncludes artifact.content)
          (artifact.kind.included .synqClient (.derive "JobQueue") none)) := by
  have hname : ClassName.parse "JobQueue" = .ok (.derive "JobQueue") :=
    ClassName.parse_eq_ok_iff.mpr ⟨by decide +kernel, rfl⟩
  have hcheck : ClassRequest.check ⟨"JobQueue", some "Job"⟩ =
      .ok (.derive "JobQueue", .derived (.derive "Job")) :=
    ClassRequest.check_of_isIdentifier (by decide +kernel) (by decide +kernel) (by decide +kernel)
  have hclass : (planClass Template.renderer .synqClient ⟨2024, "// 2024\n"⟩ ⟨"JobQueue", some "Job"⟩).result =
      .ok (ArtifactKind.classSet.map (ArtifactKind.planned .synqClient (some ⟨2024, "// 2024\n"⟩)
        (.derive "JobQueue") (.derived (.derive "Job")))) :=
    planClass_result_eq_ok_iff.mpr ⟨_, _, hcheck, rfl⟩
  have htest : (planTest Template.renderer .synqClient "JobQueue").result =
      .ok (ArtifactKind.testSet.map (ArtifactKind.planned .synqClient none (.derive "JobQueue") .root)) :=
    planTest_result_eq_ok_iff.mpr ⟨_, hname, rfl⟩
  have hreach := includes_reach Profile.isLaidOut_synqClient
  exact ⟨Profile.isLaidOut_synqClient, ⟨_, hclass, hreach.1 _ _ _ hclass⟩, ⟨_, htest, hreach.2 _ _ htest⟩⟩

end Scaffold
