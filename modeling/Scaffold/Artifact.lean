import Scaffold.Template.Source

/-!
# Generated files

A class has five files, a test has three. Each kind of file has a template, a place in the repository
and, for the sources and headers of a class, the license preamble.
-/

namespace Scaffold

/-- The kinds of generated files. -/
inductive ArtifactKind where
  | publicHeader
  | includeShim
  | publicSource
  | privateHeader
  | privateSource
  | testProject
  | testRegistration
  | testSource
  deriving DecidableEq, Repr

namespace ArtifactKind

/-- The files of a class in the order they are written. -/
def classSet : List ArtifactKind :=
  [.publicHeader, .includeShim, .publicSource, .privateHeader, .privateSource]

/-- The files of a test in the order they are written. -/
def testSet : List ArtifactKind := [.testProject, .testRegistration, .testSource]

/-- The name of the template of a file. -/
def templateName : ArtifactKind → Text
  | .publicHeader => "class/public_header.h"
  | .includeShim => "class/include_shim"
  | .publicSource => "class/public_source.cpp"
  | .privateHeader => "class/private_header.h"
  | .privateSource => "class/private_source.cpp"
  | .testProject => "test/project.pro"
  | .testRegistration => "test/CMakeLists.txt"
  | .testSource => "test/test_source.cpp"

/-- Whether the preamble stands in front of the file of a class. -/
def isLicensed : ArtifactKind → Bool
  | .publicHeader | .publicSource | .privateHeader | .privateSource => true
  | .includeShim | .testProject | .testRegistration | .testSource => false

/-- The directory of a file below the root of the repository. -/
def directory (profile : Profile) (name : ClassName) : ArtifactKind → Text
  | .publicHeader | .includeShim => profile.includeDir
  | .publicSource | .privateHeader | .privateSource => profile.sourceDir
  | .testProject | .testRegistration | .testSource => profile.testDir name.lower

/-- The name of a file in its directory. -/
def fileName (name : ClassName) : ArtifactKind → Text
  | .publicHeader => name.lower ++ ".h"
  | .includeShim => name.pascal
  | .publicSource => name.lower ++ ".cpp"
  | .privateHeader => name.lower ++ "private.h"
  | .privateSource => name.lower ++ "private.cpp"
  | .testProject => name.lower ++ ".pro"
  | .testRegistration => "CMakeLists.txt"
  | .testSource => "tst_" ++ name.lower ++ ".cpp"

/-- The path of a file below the root of the repository. -/
def path (profile : Profile) (name : ClassName) (kind : ArtifactKind) : Text :=
  Path.join (kind.directory profile name) (kind.fileName name)

end ArtifactKind

/-- A file that is ready to be written. -/
structure Artifact where
  kind : ArtifactKind
  path : Text
  content : Text
  deriving DecidableEq

end Scaffold
