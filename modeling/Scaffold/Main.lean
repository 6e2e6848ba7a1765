import Std.Time.Format
import Scaffold.Program

/-!
# The program

The program is installed under the names of both commands and does what its name says. All it decides
is decided in `Scaffold.Program`; here the arguments, the place of the program and the year are looked
up, steps are put to the system, and texts are printed.
-/

namespace Scaffold

/-- The fault in an answer of the system. -/
def Fault.ofAnswer : IO.Error → Fault
  | .alreadyExists _ code _ | .invalidArgument _ code _ | .permissionDenied _ code _
  | .resourceExhausted _ code _ | .inappropriateType _ code _ | .noSuchThing _ code _
  | .interrupted _ code _ | .noFileOrDirectory _ code _
  | .otherError code _ | .resourceBusy code _ | .resourceVanished code _
  | .unsupportedOperation code _ | .hardwareFault code _ | .unsatisfiedConstraints code _
  | .illegalOperation code _ | .protocolError code _ | .timeExpired code _ => .os code.toNat
  | .unexpectedEof => .refused "unexpected end of file"
  | .userError text => .refused text

/-- Puts a request to the system. -/
def attempt (action : IO Unit) : IO (Except Fault Unit) := do
  match ← action.toBaseIO with
  | .ok () => return .ok ()
  | .error answer => return .error (.ofAnswer answer)

/-- Whether a path leads to a directory. -/
def leadsToDirectory (path : Text) : IO Bool := do
  match ← (IO.FS.realPath (String.ofList path)).toBaseIO with
  | .ok place => place.isDir
  | .error _ => return false

/-- Puts a step to the system. -/
def Step.carryOut : Step → IO (Except Error Event)
  | .directory path => do
    match ← attempt (IO.FS.createDir (String.ofList path)) with
    | .ok () => return .ok (.createdDirectory path)
    | .error fault =>
      if fault = .fileExists && (← leadsToDirectory path) then return .ok (.foundDirectory path)
      else return .error (.write path fault)
  | .file path content => do
    match ← attempt (IO.FS.writeFile (String.ofList path) (String.ofList content)) with
    | .ok () => return .ok (.wrote path)
    | .error fault => return .error (.write path fault)

/-- Puts steps to the system, up to the first that fails. -/
def Step.carryOutAll : List Step → IO (Told (List Text))
  | [] => return ⟨[], .ok []⟩
  | step :: steps => do
    match ← step.carryOut with
    | .error error => return ⟨[], .error error⟩
    | .ok event =>
      let later ← carryOutAll steps
      return { later with events := event :: later.events }

/-- Does what is left to do. Gives the lines to print. -/
def Agenda.carryOut : Agenda → IO (Told (List Text))
  | .print targets => return ⟨[], .ok targets⟩
  | .perform steps => Step.carryOutAll steps

/-- Prints what is shown of a run. -/
def Report.print (report : Report) : IO UInt32 := do
  IO.print (String.ofList report.output)
  IO.eprint (String.ofList report.errorOutput)
  return report.exitCode.toUInt32

/-- The call that started this program. -/
def Invocation.current (arguments : List String) : IO Invocation := do
  let tool := (← IO.appPath).toString.toList
  let calledAs := (Path.fileName? tool).getD []
  let today ← Std.Time.PlainDate.now
  return {
    command := if calledAs = Command.newTest.name then .newTest else .newClass
    calledAs
    tool
    arguments := arguments.map String.toList
    year := today.year.toInt }

end Scaffold

open Scaffold in
def main (arguments : List String) : IO UInt32 := do
  let call ← Invocation.current arguments
  match call.command.parse call.arguments with
  | .error stop => (call.reportOf stop).print
  | .ok understood =>
    let prepared := call.command.prepare call.tool call.year understood
    let done ←
      match prepared.result with
      | .ok agenda => agenda.carryOut
      | .error error => pure (.ofExcept (.error error))
    ((prepared.andThen fun _ => done).report understood.verbose).print
