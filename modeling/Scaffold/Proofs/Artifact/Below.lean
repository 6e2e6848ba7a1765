import Scaffold.Proofs.Artifact.Apart
import Scaffold.Proofs.FileTree.Below

/-! Where the files of SynqClient go below the root of its repository. The paths of all files of accepted names
spell plain names, so that two of them meet only if the kinds have one directory and the files one name. -/

namespace Scaffold

namespace ArtifactKind

/-- The names that lead from the root of the repository to the directory of a file. -/
def directoryNames (lower : Text) : ArtifactKind → List Text
  | .publicHeader | .includeShim => ["libsynqclient", "inc", "SynqClient"]
  | .publicSource | .privateHeader | .privateSource => ["libsynqclient", "src"]
  | .testProject | .testRegistration | .testSource => ["tests", lower]

/-- The names that lead from the root of the repository to a file. -/
def namesBelow (name : ClassName) (kind : ArtifactKind) : List Text :=
  kind.directoryNames name.lower ++ [kind.fileName name]

end ArtifactKind

theorem ArtifactKind.dropLast_namesBelow (name : ClassName) (kind : ArtifactKind) :
    (kind.namesBelow name).dropLast = kind.directoryNames name.lower := List.dropLast_concat

theorem spells_of_isIdentifier {text : Text} (h : isIdentifier text = true) : Spells text [text] :=
  (Path.IsFileName.of_isIdentifier h).spells

theorem Profile.spells_testDir {lower : Text} (hword : IsWord lower) (hne : lower ≠ []) :
    Spells (Profile.synqClient.testDir lower) ["tests", lower] :=
  (spells_of_isIdentifier (by decide +kernel)).join (Path.IsFileName.of_isWord hword hne).spells

theorem Profile.spells_includeDir : Spells Profile.synqClient.includeDir ["libsynqclient", "inc", "SynqClient"] :=
  ((spells_of_isIdentifier (by decide +kernel)).join (spells_of_isIdentifier (by decide +kernel))).join
    (spells_of_isIdentifier (by decide +kernel))

theorem Profile.spells_sourceDir : Spells Profile.synqClient.sourceDir ["libsynqclient", "src"] :=
  (spells_of_isIdentifier (by decide +kernel)).join (spells_of_isIdentifier (by decide +kernel))

variable {name other : ClassName} {kind kind' : ArtifactKind}

theorem ArtifactKind.spells_path (hname : name.IsParsed) (kind : ArtifactKind) :
    Spells (kind.path .synqClient name) (kind.namesBelow name) := by
  have hdirectory : Spells (kind.directory .synqClient name) (kind.directoryNames name.lower) := by
    cases kind with
    | publicHeader | includeShim => exact Profile.spells_includeDir
    | publicSource | privateHeader | privateSource => exact Profile.spells_sourceDir
    | testProject | testRegistration | testSource => exact Profile.spells_testDir hname.lower_isWord hname.lower_ne_nil
  exact hdirectory.join (kind.isFileName_fileName hname).spells

theorem ArtifactKind.head?_namesBelow_of_classSet (hkind : kind ∈ classSet) (name : ClassName) :
    (kind.namesBelow name).head? = some "libsynqclient" := by
  cases kind <;> first
    | rfl
    | exact absurd hkind (by decide)

theorem ArtifactKind.namesBelow_of_testSet (hkind : kind ∈ testSet) (name : ClassName) :
    kind.namesBelow name = (["tests", name.lower, kind.fileName name] : List Text) := by
  cases kind <;> first
    | rfl
    | exact absurd hkind (by decide)

/-- No file of a class is on the way to a file of a class. -/
theorem ArtifactKind.not_prefix_of_classSet (hkind : kind ∈ classSet) (hkind' : kind' ∈ classSet) (lower : Text) :
    ¬kind'.namesBelow other <+: kind.directoryNames lower := by
  intro hprefix
  have hlength := hprefix.length_le
  have hsecond : ∀ file : Text,
      ¬(["libsynqclient", "src", file] : List Text) <+: ["libsynqclient", "inc", "SynqClient"] := by
    intro file h
    have hname := (List.cons_prefix_cons.mp (List.cons_prefix_cons.mp h).2).1
    exact absurd hname (by decide)
  cases kind <;> try exact absurd hkind (by decide)
  all_goals cases kind' <;> try exact absurd hkind' (by decide)
  all_goals first
    | exact hsecond _ hprefix
    | exact absurd hlength (by simp [namesBelow, directoryNames])

end Scaffold
