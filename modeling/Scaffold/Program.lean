import Scaffold.CommandLine.Help
import Scaffold.CommandLine.Parse
import Scaffold.Generate

/-!
# Runs of the program

A run reads its command line, finds the root, plans and, unless it is a dry run, performs the plan. All
it shows follows from its arguments, the place of the program, the year and the file tree.
-/

namespace Scaffold

/-- A call of the program. -/
structure Invocation where
  command : Command
  /-- The name the program was called by. -/
  calledAs : Text
  /-- The path of the program. -/
  tool : Text
  arguments : List Text
  year : Int

/-- What a run shows. -/
structure Report where
  exitCode : Nat
  output : Text
  errorOutput : Text

/-- The work that a command line asks for. -/
inductive Job where
  | newClass (license : License) (request : ClassRequest)
  | newTest (className : Text)

/-- The work for arguments. The preamble of a class is rendered ahead of all else. -/
def Command.job (command : Command) (year : Int) (arguments : Arguments) : Told Job :=
  match command with
  | .newClass => do
    Told.tell (.licensing year)
    let license ← Told.ofExcept (License.forYear Template.renderer .synqClient year)
    return .newClass license ⟨arguments.className, arguments.baseClass⟩
  | .newTest => return .newTest arguments.className

/-- The files that a job makes. -/
def Job.plan : Job → Told (List Artifact)
  | .newClass license request => planClass Template.renderer .synqClient license request
  | .newTest className => planTest Template.renderer .synqClient className

/-- The steps that write the files of a job. -/
def Job.steps (layout : Layout) : Job → List Artifact → List Step
  | .newClass _ _ => layout.fileSteps
  | .newTest className => layout.testSteps .synqClient className

/-- What is left to do after planning: to print the targets, or to write the files. -/
inductive Agenda where
  | print (targets : List Text)
  | perform (steps : List Step)
  deriving DecidableEq

/-- What is left to do for planned files. -/
def Job.agenda (job : Job) (layout : Layout) (dryRun : Bool) (artifacts : List Artifact) : Agenda :=
  if dryRun then .print (artifacts.map (layout.target ·.path))
  else .perform (job.steps layout artifacts)

/-- All of a run that does not look at the file tree. -/
def Command.prepare (command : Command) (tool : Text) (year : Int) (arguments : Arguments) :
    Told Agenda := do
  let job ← command.job year arguments
  let layout ← Layout.resolve tool arguments.root
  let artifacts ← job.plan
  return job.agenda layout arguments.dryRun artifacts

/-- Does what is left to do. Gives the lines to print. -/
def Agenda.run : Agenda → FileTree → Outcome (List Text)
  | .print targets, tree => ⟨⟨[], .ok targets⟩, tree⟩
  | .perform steps, tree => (Step.performAll steps tree).map fun _ => []

/-- A run for arguments that were understood. Gives the lines to print. -/
def Command.run (command : Command) (tool : Text) (year : Int) (arguments : Arguments)
    (tree : FileTree) : Outcome (List Text) :=
  (command.prepare tool year arguments).change Agenda.run tree

/-- Texts as lines. -/
def asLines (texts : List Text) : Text := texts.flatMap (· ++ "\n")

/-- What is shown of a run. The log is shown if it is asked for, an error behind it. -/
def Told.report (told : Told (List Text)) (verbose : Bool) : Report :=
  let log := if verbose then told.events.flatMap Event.line else []
  match told.result with
  | .ok lines => ⟨0, asLines lines, log⟩
  | .error error => ⟨1, [], log ++ asLines [error.message]⟩

/-- What is shown in place of a run. Without a name the program prints its help and fails. -/
def Invocation.reportOf (call : Invocation) : Stop → Report
  | .help => ⟨0, call.command.help call.calledAs, []⟩
  | .version => ⟨0, call.command.versionLine, []⟩
  | .fault .missingName => ⟨1, call.command.help call.command.name, []⟩
  | .fault fault => ⟨2, [], asLines [fault.printed]⟩

/-- Runs the program. -/
def Invocation.run (call : Invocation) (tree : FileTree) : Report × FileTree :=
  match call.command.parse call.arguments with
  | .error stop => (call.reportOf stop, tree)
  | .ok arguments =>
    let outcome := call.command.run call.tool call.year arguments tree
    (outcome.report arguments.verbose, outcome.tree)

end Scaffold
