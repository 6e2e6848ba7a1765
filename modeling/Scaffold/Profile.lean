import Scaffold.Path

/-!
# Library profiles

What the generated files say about the library they belong to, and where in its repository they go.
-/

namespace Scaffold

/-- The conventions of a library. -/
structure Profile where
  /-- The namespace of every class, which is also the directory of the public headers. -/
  nameSpace : Text
  exportMacro : Text
  /-- The header that defines the export macro, seen from the directory of the public headers. -/
  globalHeader : Text
  /-- The parent of a class without a base class. -/
  rootBase : Text
  guardPrefix : Text
  libraryDir : Text
  testsDir : Text
  /-- The build function that registers a test project. -/
  testRegistrationMacro : Text
  copyrightHolder : Text
  deriving DecidableEq

/-- The conventions of SynqClient. -/
def Profile.synqClient : Profile where
  nameSpace := "SynqClient"
  exportMacro := "LIBSYNQCLIENT_EXPORT"
  globalHeader := "libsynqclient_global.h"
  rootBase := "QObject"
  guardPrefix := "SYNQCLIENT"
  libraryDir := "libsynqclient"
  testsDir := "tests"
  testRegistrationMacro := "synqclient_add_test"
  copyrightHolder := "Martin Hoeher <martin@rpdev.net>"

/-- The directory of the public headers. -/
def Profile.includeDir (profile : Profile) : Text :=
  Path.join (Path.join profile.libraryDir "inc") profile.nameSpace

/-- The directory of the sources and private headers. -/
def Profile.sourceDir (profile : Profile) : Text := Path.join profile.libraryDir "src"

/-- The directory of the test project of a class. -/
def Profile.testDir (profile : Profile) (lower : Text) : Text := Path.join profile.testsDir lower

end Scaffold
