import Scaffold.Text.Visible

/-!
# The command line

There are two commands, one for classes and one for tests. Both take the name of a class and options:
settings, which have a value, and flags, which have none.
-/

namespace Scaffold

/-- The commands. -/
inductive Command where
  | newClass
  | newTest
  deriving DecidableEq, Repr

/-- Options without a value. -/
inductive Flag where
  | dryRun
  | verbose
  | help
  | version
  deriving DecidableEq, Repr

/-- Options with a value. -/
inductive Setting where
  | baseClass
  | root
  deriving DecidableEq, Repr

/-- What a command line asks for. -/
structure Arguments where
  className : Text
  baseClass : Option Text
  root : Option Text
  dryRun : Bool
  verbose : Bool
  deriving DecidableEq

/-- The name of a command. -/
def Command.name : Command → Text
  | .newClass => "new-class"
  | .newTest => "new-test"

/-- The settings a command takes. -/
def Command.settings : Command → List Setting
  | .newClass => [.baseClass, .root]
  | .newTest => [.root]

namespace Flag

/-- The flags, which every command takes. -/
def all : List Flag := [.dryRun, .verbose, .help, .version]

/-- The long name of a flag. -/
def name : Flag → Text
  | .dryRun => "dry-run"
  | .verbose => "verbose"
  | .help => "help"
  | .version => "version"

/-- The letter of a flag. -/
def letter? : Flag → Option Char
  | .dryRun => none
  | .verbose => some 'v'
  | .help => some 'h'
  | .version => some 'V'

/-- A flag as messages show it. -/
def shown (flag : Flag) : Text := "--" ++ flag.name

end Flag

namespace Setting

/-- The name of a setting. -/
def name : Setting → Text
  | .baseClass => "base-class"
  | .root => "root"

/-- What stands for the value of a setting. -/
def placeholder : Setting → Text
  | .baseClass => "BASE_CLASS_NAME"
  | .root => "DIR"

/-- A setting as messages show it. -/
def shown (setting : Setting) : Text := "--" ++ setting.name ++ " <" ++ setting.placeholder ++ ">"

end Setting

/-- What is wrong with a command line. -/
inductive ArgumentFault where
  /-- An option there is none of, or an argument too many. -/
  | unknown (argument : Text)
  | missingValue (setting : Setting)
  | repeatedFlag (flag : Flag)
  | repeatedSetting (setting : Setting)
  /-- A value is attached to a flag. -/
  | surplusValue (value : Text) (flag : Flag)
  | missingName
  deriving DecidableEq

/-- The fault in words, with what it quotes of the command line shown in a certain way. -/
def ArgumentFault.text (shown : Text → Text) : ArgumentFault → Text
  | .unknown argument => "error: unexpected argument '" ++ shown argument ++ "' found"
  | .missingValue setting =>
    "error: a value is required for '" ++ setting.shown ++ "' but none was supplied"
  | .repeatedFlag flag => "error: the argument '" ++ flag.shown ++ "' cannot be used multiple times"
  | .repeatedSetting setting =>
    "error: the argument '" ++ setting.shown ++ "' cannot be used multiple times"
  | .surplusValue value flag =>
    "error: unexpected value '" ++ shown value ++ "' for '" ++ flag.shown
      ++ "' found; no more were expected"
  | .missingName => "error: the following required arguments were not provided:"

/-- The message of a fault. -/
def ArgumentFault.message : ArgumentFault → Text := ArgumentFault.text Text.visible

/-- The message of a fault as a run prints it. -/
def ArgumentFault.printed : ArgumentFault → Text := ArgumentFault.text Text.streamed

/-- What a command line leads to other than a run. -/
inductive Stop where
  | help
  | version
  | fault (fault : ArgumentFault)
  deriving DecidableEq

end Scaffold
