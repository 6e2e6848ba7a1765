import Scaffold.CommandLine

/-!
# Help

The help of a command lists its arguments in columns as wide as their longest entry.
-/

namespace Scaffold

/-- What a command is for. -/
def Command.about : Command → Text
  | .newClass => "Generate the public and private sources of a new SynqClient class"
  | .newTest => "Generate an empty unit test project for a SynqClient class"

/-- What the name given to a command is the name of. -/
def Command.nameHelp : Command → Text
  | .newClass => "Name of the class to generate, e.g. \x60JobQueue\x60"
  | .newTest => "Name of the class under test, e.g. \x60JobQueue\x60"

/-- What a setting is for. -/
def Setting.about : Setting → Text
  | .baseClass => "The class the new class derives from"
  | .root =>
    "Repository root to write into instead of the one derived from the location of this executable"

/-- What a flag is for. -/
def Flag.about : Flag → Text
  | .dryRun => "Render everything and print the target paths without writing"
  | .verbose => "Enable verbose logging output"
  | .help => "Print help"
  | .version => "Print version"

/-- The option of a setting, set in as far as one with a letter. -/
def Setting.entry (setting : Setting) : Text := "    " ++ setting.shown

/-- The option of a flag behind its letter. -/
def Flag.entry (flag : Flag) : Text :=
  (match flag.letter? with
    | some c => ['-', c] ++ ", "
    | none => "    ") ++ flag.shown

/-- The options of a command and what they are for. -/
def Command.options (command : Command) : List (Text × Text) :=
  command.settings.map (fun setting => (setting.entry, setting.about))
    ++ Flag.all.map (fun flag => (flag.entry, flag.about))

/-- Lines in two columns, set in by two blanks and two blanks apart. -/
def columns (rows : List (Text × Text)) : Text :=
  let width := (rows.map (·.1.length)).foldl max 0
  rows.flatMap fun (left, right) =>
    "  " ++ left ++ List.replicate (width - left.length) ' ' ++ "  " ++ right ++ "\n"

/-- The help of a command that was called by a name. -/
def Command.help (command : Command) (calledAs : Text) : Text :=
  command.about ++ "\n\nUsage: " ++ Text.streamed calledAs ++ " [OPTIONS] <CLASS_NAME>\n\nArguments:\n"
    ++ columns [("<CLASS_NAME>", command.nameHelp)] ++ "\nOptions:\n" ++ columns command.options

/-- The name and version of a command. -/
def Command.versionLine (command : Command) : Text := command.name ++ " 0.3.1\n"

end Scaffold
