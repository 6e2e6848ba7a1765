import Scaffold.CommandLine

/-!
# Reading command lines

Arguments are read from the left. A value, be it of a setting or the name of the class, is held back
until the next option or name is recognised, and only then looked at. So of two faults the one that an
option nobody knows is found first, even behind a setting without its value.
-/

namespace Scaffold

/-- What an argument is by its looks. -/
inductive Argument where
  /-- Two dashes: all arguments behind them are names. -/
  | separator
  | long (name : Text) (value : Option Text)
  | letters (letters : Text)
  | plain (text : Text)
  deriving DecidableEq

/-- A text up to an equals sign and, if there is one, the text behind it. -/
def splitValue : Text → Text × Option Text
  | [] => ([], none)
  | c :: cs =>
    if c = '=' then ([], some cs)
    else
      let (name, value) := splitValue cs
      (c :: name, value)

/-- An argument by its looks. A dash alone is plain. -/
def Argument.ofText : Text → Argument
  | ['-', '-'] => .separator
  | '-' :: '-' :: cs => .long (splitValue cs).1 (splitValue cs).2
  | ['-'] => .plain ['-']
  | '-' :: cs => .letters cs
  | text => .plain text

/-- A value that was read but not looked at. -/
inductive Held where
  | setting (setting : Setting) (value : Option Text)
  | name (text : Text)
  deriving DecidableEq

/-- What was read so far. -/
structure Progress where
  className : Option Text := none
  baseClass : Option Text := none
  root : Option Text := none
  dryRun : Bool := false
  verbose : Bool := false
  held : Option Held := none
  deriving DecidableEq

namespace Progress

/-- Takes the value of a setting. A setting is taken once, and the root is not empty. -/
def store (progress : Progress) (value : Text) : Setting → Except Stop Progress
  | .baseClass =>
    if progress.baseClass.isSome then .error (.fault (.repeatedSetting .baseClass))
    else .ok { progress with baseClass := some value }
  | .root =>
    if progress.root.isSome then .error (.fault (.repeatedSetting .root))
    else if value = [] then .error (.fault (.missingValue .root))
    else .ok { progress with root := some value }

/-- Looks at the value that is held back. -/
def settle (progress : Progress) : Except Stop Progress :=
  match progress.held with
  | none => .ok progress
  | some (.name text) => .ok { progress with className := some text, held := none }
  | some (.setting setting none) => .error (.fault (.missingValue setting))
  | some (.setting setting (some value)) => { progress with held := none }.store value setting

/-- Takes a flag. Help and version end the reading. -/
def flag (progress : Progress) (flag : Flag) : Except Stop Progress := do
  let progress ← progress.settle
  match flag with
  | .help => .error .help
  | .version => .error .version
  | .dryRun =>
    if progress.dryRun then .error (.fault (.repeatedFlag .dryRun))
    else .ok { progress with dryRun := true }
  | .verbose =>
    if progress.verbose then .error (.fault (.repeatedFlag .verbose))
    else .ok { progress with verbose := true }

/-- Takes a setting with its value, or holds it back to wait for one. -/
def setting (progress : Progress) (setting : Setting) (value : Option Text) :
    Except Stop Progress := do
  let progress ← progress.settle
  match value with
  | some value => progress.store value setting
  | none => .ok { progress with held := some (.setting setting none) }

/-- Takes a long option. -/
def long (progress : Progress) (command : Command) (name : Text) (value : Option Text) :
    Except Stop Progress :=
  match command.settings.find? (·.name = name) with
  | some setting => progress.setting setting value
  | none =>
    match Flag.all.find? (·.name = name) with
    | none => .error (.fault (.unknown ("--" ++ name)))
    | some flag =>
      match value with
      | some value => .error (.fault (.surplusValue value flag))
      | none => progress.flag flag

/-- Takes flags by their letters. -/
def letters (progress : Progress) : Text → Except Stop Progress
  | [] => .ok progress
  | c :: cs =>
    match Flag.all.find? (·.letter? = some c) with
    | none => .error (.fault (.unknown ['-', c]))
    | some flag =>
      match progress.flag flag with
      | .error stop => .error stop
      | .ok progress => progress.letters cs

/-- Whether the name of the class was read. -/
def hasName (progress : Progress) : Bool :=
  progress.className.isSome || (match progress.held with
    | some (.name _) => true
    | _ => false)

/-- Takes the name of the class, of which there is one. -/
def name (progress : Progress) (text : Text) : Except Stop Progress :=
  if progress.hasName then .error (.fault (.unknown text))
  else (progress.settle).map fun progress => { progress with held := some (.name text) }

/-- Takes an argument that is no option, as the value that a setting waits for or else as the name. -/
def plain (progress : Progress) (text : Text) : Except Stop Progress :=
  match progress.held with
  | some (.setting setting none) =>
    .ok { progress with held := some (.setting setting (some text)) }
  | _ => progress.name text

/-- What was asked for when all arguments are read. -/
def finish (progress : Progress) : Except Stop Arguments := do
  let progress ← progress.settle
  match progress.className with
  | none => .error (.fault .missingName)
  | some className =>
    .ok ⟨className, progress.baseClass, progress.root, progress.dryRun, progress.verbose⟩

/-- Reads arguments behind the separator. -/
def readNames (progress : Progress) : List Text → Except Stop Arguments
  | [] => progress.finish
  | text :: rest =>
    match progress.name text with
    | .error stop => .error stop
    | .ok progress => progress.readNames rest

/-- Reads arguments. -/
def read (progress : Progress) (command : Command) : List Text → Except Stop Arguments
  | [] => progress.finish
  | text :: rest =>
    let taken :=
      match Argument.ofText text with
      | .separator => none
      | .long name value => some (progress.long command name value)
      | .letters letters => some (progress.letters letters)
      | .plain text => some (progress.plain text)
    match taken with
    | none => progress.readNames rest
    | some (.error stop) => .error stop
    | some (.ok progress) => progress.read command rest

end Progress

/-- Reads the arguments of a command. -/
def Command.parse (command : Command) (arguments : List Text) : Except Stop Arguments :=
  ({} : Progress).read command arguments

end Scaffold
