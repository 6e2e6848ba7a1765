import Scaffold.Plan
import Scaffold.Step

/-!
# Generating files

Generation plans first and writes then. A request that cannot be planned leaves the tree alone.
-/

namespace Scaffold

/-- The steps that write a planned test: its directory comes first. -/
def Layout.testSteps (layout : Layout) (profile : Profile) (className : Text)
    (artifacts : List Artifact) : List Step :=
  layout.directoryStep (profile.testDir (ClassName.derive className).lower)
    :: layout.fileSteps artifacts

/-- Writes the files of a class. -/
def generateClass (render : Renderer) (profile : Profile) (license : License) (layout : Layout)
    (request : ClassRequest) (tree : FileTree) : Outcome (List Text) :=
  (planClass render profile license request).change
    (fun artifacts => Step.performAll (layout.fileSteps artifacts)) tree

/-- Makes sure of the directory of a test and writes the test into it. -/
def generateTest (render : Renderer) (profile : Profile) (layout : Layout) (className : Text)
    (tree : FileTree) : Outcome (List Text) :=
  (planTest render profile className).change
    (fun artifacts => Step.performAll (layout.testSteps profile className artifacts)) tree

end Scaffold
