import Scaffold.Layout
import Scaffold.Proofs.Artifact.FileName
import Scaffold.Proofs.Path.Parent

/-! Where generated files are written. Seen from the root, a file is still the one of its name in its directory,
whatever texts a profile has for directories, be they empty, absolute or with steps back. The directory of a test
ends in a name itself, so that it is the parent of the files of the test, letter by letter. -/

namespace Scaffold

theorem Path.fileName?_join_name {file : Text} (hfile : Path.IsFileName file) (base : Text) :
    Path.fileName? (Path.join base file) = some file := by
  rw [fileName?, components_join_name hfile, List.getLast?_concat]

namespace ArtifactKind

variable {name : ClassName} {kind : ArtifactKind}

theorem target_path (layout : Layout) (profile : Profile) (hname : name.IsParsed) (kind : ArtifactKind) :
    layout.target (kind.path profile name) =
      Path.join (layout.target (kind.directory profile name)) (kind.fileName name) :=
  Path.join_join_name (kind.isFileName_fileName hname) _ _

theorem nul_notMem_fileName (hname : name.IsParsed) (kind : ArtifactKind) : '\x00' ∉ kind.fileName name := by
  have hextension : '\x00' ∉ kind.extension := by cases kind <;> decide
  rw [fileName_eq, List.mem_append, not_or]
  exact ⟨(stem_isWord hname kind).notMem (by decide), hextension⟩

theorem directory_of_testSet (hkind : kind ∈ testSet) (profile : Profile) (name : ClassName) :
    kind.directory profile name = profile.testDir name.lower := by
  cases kind <;> first
    | rfl
    | exact absurd hkind (by decide)

end ArtifactKind

theorem ClassName.IsParsed.isFileName_lower {name : ClassName} (hname : name.IsParsed) : Path.IsFileName name.lower :=
  .of_isWord hname.lower_isWord hname.lower_ne_nil

theorem ClassName.IsParsed.nul_notMem_lower {name : ClassName} (hname : name.IsParsed) : '\x00' ∉ name.lower :=
  hname.lower_isWord.notMem (by decide)

namespace Profile

variable {name : ClassName} {kind : ArtifactKind}

theorem target_testDir (layout : Layout) (profile : Profile) (hname : name.IsParsed) :
    layout.target (profile.testDir name.lower) = Path.join (layout.target profile.testsDir) name.lower :=
  Path.join_join_name hname.isFileName_lower _ _

/-- The directory of a test is the parent of the paths of its files. -/
theorem parent?_path (profile : Profile) (hname : name.IsParsed) (hkind : kind ∈ ArtifactKind.testSet) :
    Path.parent? (kind.path profile name) = some (profile.testDir name.lower) := by
  rw [ArtifactKind.path, ArtifactKind.directory_of_testSet hkind]
  exact Path.parent?_join_join hname.isFileName_lower (kind.isFileName_fileName hname) _

/-- The same is so seen from the root. -/
theorem parent?_target (layout : Layout) (profile : Profile) (hname : name.IsParsed)
    (hkind : kind ∈ ArtifactKind.testSet) :
    Path.parent? (layout.target (kind.path profile name)) = some (layout.target (profile.testDir name.lower)) := by
  rw [kind.target_path layout profile hname, ArtifactKind.directory_of_testSet hkind,
    target_testDir layout profile hname]
  exact Path.parent?_join_join hname.isFileName_lower (kind.isFileName_fileName hname) _

end Profile

end Scaffold
