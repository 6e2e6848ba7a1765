import Scaffold.FileTree.Change
import Scaffold.Layout

/-!
# Steps on a file tree

A run changes the tree in steps: it makes sure of a directory, or writes a file. Steps are performed in
order up to the first that fails; what the steps before it did remains.
-/

namespace Scaffold

/-- A change that a run makes. -/
inductive Step where
  | directory (path : Text)
  | file (path content : Text)
  deriving DecidableEq

/-- What a change told, what it gave or the error that ended it, and the tree it left. -/
structure Outcome (α : Type) extends Told α where
  tree : FileTree

namespace Outcome

variable {α β : Type}

/-- A change behind further events. -/
def behind (outcome : Outcome α) (events : List Event) : Outcome α :=
  { outcome with events := events ++ outcome.events }

/-- A change that gives something else. -/
def map (f : α → β) (outcome : Outcome α) : Outcome β :=
  ⟨⟨outcome.events, outcome.result.map f⟩, outcome.tree⟩

end Outcome

/-- Changes a tree by what was told before, if it is not an error. -/
def Told.change {α β : Type} (told : Told α) (next : α → FileTree → Outcome β) (tree : FileTree) :
    Outcome β :=
  match told.result with
  | .error error => ⟨⟨told.events, .error error⟩, tree⟩
  | .ok value => (next value tree).behind told.events

namespace Step

/-- The file a step writes. -/
def written : Step → List Text
  | .directory _ => []
  | .file path _ => [path]

/-- Does a step. A directory that exists, be it at the end of links, is as good as a new one. -/
def perform (tree : FileTree) : Step → Except Error (Event × FileTree)
  | .directory path =>
    match tree.createDirectory path with
    | .ok tree => .ok (.createdDirectory path, tree)
    | .error fault =>
      if fault = .fileExists && tree.isDirectory path then .ok (.foundDirectory path, tree)
      else .error (.write path fault)
  | .file path content =>
    match tree.writeFile path content with
    | .ok tree => .ok (.wrote path, tree)
    | .error fault => .error (.write path fault)

/-- Does steps in order, up to the first that fails. Gives the files they wrote. -/
def performAll : List Step → FileTree → Outcome (List Text)
  | [], tree => ⟨⟨[], .ok []⟩, tree⟩
  | step :: steps, tree =>
    match step.perform tree with
    | .error error => ⟨⟨[], .error error⟩, tree⟩
    | .ok (event, tree) => ((performAll steps tree).map (step.written ++ ·)).behind [event]

end Step

namespace Layout

/-- The step that makes sure of a directory below the root. -/
def directoryStep (layout : Layout) (path : Text) : Step := .directory (layout.target path)

/-- The steps that write files below the root. -/
def fileSteps (layout : Layout) (artifacts : List Artifact) : List Step :=
  artifacts.map fun artifact => .file (layout.target artifact.path) artifact.content

/-- Makes sure of a directory below the root, whose parent must be there. Gives its path. -/
def ensureDirectory (layout : Layout) (path : Text) (tree : FileTree) : Outcome Text :=
  (Step.performAll [layout.directoryStep path] tree).map fun _ => layout.target path

/-- Writes files below the root in order, up to the first that fails. -/
def writeAll (layout : Layout) (artifacts : List Artifact) (tree : FileTree) : Outcome (List Text) :=
  Step.performAll (layout.fileSteps artifacts) tree

end Layout

end Scaffold
