import Scaffold.Plan
import Scaffold.Proofs.Name.Acceptance
import Scaffold.Proofs.Path.Join

/-! The names of generated files. Such a name is a stem, which is a word, and an extension; files with one
name have one stem and one extension. It is the last component of the path of the file. -/

namespace Scaffold

namespace ArtifactKind

/-- The name of a file up to its extension. -/
def stem (name : ClassName) : ArtifactKind → Text
  | .publicHeader | .publicSource | .testProject => name.lower
  | .includeShim => name.pascal
  | .privateHeader | .privateSource => name.lower ++ "private"
  | .testRegistration => "CMakeLists"
  | .testSource => "tst_" ++ name.lower

/-- The extension of the name of a file, with its dot. -/
def extension : ArtifactKind → Text
  | .publicHeader | .privateHeader => ['.', 'h']
  | .includeShim => []
  | .publicSource | .privateSource | .testSource => ['.', 'c', 'p', 'p']
  | .testProject => ['.', 'p', 'r', 'o']
  | .testRegistration => ['.', 't', 'x', 't']

theorem fileName_eq (name : ClassName) (kind : ArtifactKind) :
    kind.fileName name = kind.stem name ++ kind.extension := by
  have hheader : ("private.h" : String).toList = ("private" : String).toList ++ ['.', 'h'] := by decide +kernel
  have hsource : ("private.cpp" : String).toList = ("private" : String).toList ++ ['.', 'c', 'p', 'p'] := by
    decide +kernel
  cases kind with
  | includeShim => exact (List.append_nil _).symm
  | privateHeader => exact (congrArg _ hheader).trans (List.append_assoc _ _ _).symm
  | privateSource => exact (congrArg _ hsource).trans (List.append_assoc _ _ _).symm
  | _ => rfl

theorem fileName_publicHeader (name : ClassName) : publicHeader.fileName name = name.lower ++ ".h" := rfl

theorem fileName_includeShim (name : ClassName) : includeShim.fileName name = name.pascal := rfl

theorem fileName_privateHeader (name : ClassName) : privateHeader.fileName name = name.lower ++ "private.h" := rfl

theorem takeWhile_extension (kind : ArtifactKind) : kind.extension.takeWhile isIdentifierPart = [] := by
  cases kind <;> rfl

theorem stem_isWord {name : ClassName} (hname : name.IsParsed) (kind : ArtifactKind) :
    IsWord (kind.stem name) := by
  have hprivate : IsWord "private" := IsWord.of_all (by decide +kernel)
  have hlists : IsWord "CMakeLists" := IsWord.of_all (by decide +kernel)
  have htst : IsWord "tst_" := IsWord.of_all (by decide +kernel)
  cases kind with
  | includeShim => exact hname.pascal_isWord
  | privateHeader | privateSource => exact hname.lower_isWord.append hprivate
  | testRegistration => exact hlists
  | testSource => exact htst.append hname.lower_isWord
  | _ => exact hname.lower_isWord

theorem stem_ne_nil {name : ClassName} (hname : name.IsParsed) (kind : ArtifactKind) : kind.stem name ≠ [] := by
  have hlists : ("CMakeLists" : Text) ≠ [] := by decide +kernel
  cases kind with
  | includeShim => exact hname.pascal_ne_nil
  | privateHeader | privateSource => exact List.append_ne_nil_of_left_ne_nil hname.lower_ne_nil _
  | testRegistration => exact hlists
  | testSource => exact List.append_ne_nil_of_right_ne_nil _ hname.lower_ne_nil
  | _ => exact hname.lower_ne_nil

end ArtifactKind

/-- A word ends where something begins that is no part of a word. -/
theorem IsWord.append_inj {s t e f : Text} (hs : IsWord s) (ht : IsWord t)
    (he : e.takeWhile isIdentifierPart = []) (hf : f.takeWhile isIdentifierPart = []) (h : s ++ e = t ++ f) :
    s = t ∧ e = f := by
  have hword := congrArg (List.takeWhile isIdentifierPart) h
  rw [List.takeWhile_append_of_pos hs, List.takeWhile_append_of_pos ht, he, hf, List.append_nil,
    List.append_nil] at hword
  subst hword
  exact ⟨rfl, List.append_cancel_left h⟩

namespace ArtifactKind

variable {name other : ClassName}

theorem stem_extension_eq (hname : name.IsParsed) (hother : other.IsParsed) {kind kind' : ArtifactKind}
    (h : kind.fileName name = kind'.fileName other) :
    kind.stem name = kind'.stem other ∧ kind.extension = kind'.extension := by
  rw [fileName_eq, fileName_eq] at h
  exact (stem_isWord hname kind).append_inj (stem_isWord hother kind') (takeWhile_extension kind)
    (takeWhile_extension kind') h

theorem stem_extension_sameLetters (hname : name.IsParsed) {kind kind' : ArtifactKind}
    (h : SameLetters (kind.fileName name) (kind'.fileName name)) :
    SameLetters (kind.stem name) (kind'.stem name) ∧ kind.extension = kind'.extension := by
  have hextension : ∀ kind : ArtifactKind, kind.extension.map Char.toLower = kind.extension := by
    intro kind
    cases kind <;> rfl
  have hword : ∀ kind : ArtifactKind, IsWord ((kind.stem name).map Char.toLower) := by
    intro kind
    rw [← Text.lower_of_isAscii (stem_isWord hname kind).isAscii]
    exact (stem_isWord hname kind).lower
  rw [SameLetters, fileName_eq, fileName_eq, List.map_append, List.map_append, hextension, hextension] at h
  exact (hword kind).append_inj (hword kind') (takeWhile_extension kind) (takeWhile_extension kind') h

/-- The files of one class, or of one test, have names that differ by more than the case of letters. -/
theorem eq_of_sameLetters_fileName (hname : name.IsParsed) {kind kind' : ArtifactKind}
    (hkinds : (kind ∈ classSet ∧ kind' ∈ classSet) ∨ (kind ∈ testSet ∧ kind' ∈ testSet))
    (h : SameLetters (kind.fileName name) (kind'.fileName name)) : kind = kind' := by
  obtain ⟨hstem, hextension⟩ := stem_extension_sameLetters hname h
  have hlength : (kind.stem name).length = (kind'.stem name).length := by
    simpa using congrArg List.length hstem
  -- Files with one extension have stems of different lengths.
  have hprivate : name.lower.length ≠ (name.lower ++ "private").length := by
    have hpositive : 0 < ("private" : Text).length := by decide
    rw [List.length_append]
    omega
  cases kind <;> cases kind' <;> first
    | rfl
    | exact absurd hextension (by decide)
    | exact absurd hkinds (by decide)
    | exact absurd hlength hprivate
    | exact absurd hlength.symm hprivate

theorem eq_of_fileName_eq (hname : name.IsParsed) {kind kind' : ArtifactKind}
    (hkinds : (kind ∈ classSet ∧ kind' ∈ classSet) ∨ (kind ∈ testSet ∧ kind' ∈ testSet))
    (h : kind.fileName name = kind'.fileName name) : kind = kind' :=
  eq_of_sameLetters_fileName hname hkinds (congrArg _ h)

theorem isFileName_fileName (hname : name.IsParsed) (kind : ArtifactKind) :
    Path.IsFileName (kind.fileName name) := by
  have hslash : '/' ∉ kind.extension := by cases kind <;> decide
  rw [fileName_eq]
  exact Path.IsFileName.of_word_append (stem_isWord hname kind) (stem_ne_nil hname kind) hslash

theorem components_path (profile : Profile) (hname : name.IsParsed) (kind : ArtifactKind) :
    Path.components (kind.path profile name) =
      Path.components (kind.directory profile name) ++ [.name (kind.fileName name)] :=
  Path.components_join_name (isFileName_fileName hname kind) _

end ArtifactKind

end Scaffold
