import Scaffold.CommandLine.Parse

/-! How a command line can be worded. It says items, each of them by one phrase, and there may be several ways to
phrase an item. The phrases stand in any order. Behind a separator all arguments are names, whatever they look
like. -/

namespace Scaffold

/-- What is said by a phrase on a command line. -/
inductive Item where
  | name (text : Text)
  | setting (setting : Setting) (value : Text)
  | dryRun
  | verbose
  deriving DecidableEq

/-- An item without its text. A command line says at most one item of each kind. -/
def Item.kind : Item → Item
  | .name _ => .name []
  | .setting s _ => .setting s []
  | .dryRun => .dryRun
  | .verbose => .verbose

/-- What arguments record, item by item. -/
def Arguments.items (arguments : Arguments) : List Item :=
  .name arguments.className :: (arguments.baseClass.toList.map (.setting .baseClass)
    ++ arguments.root.toList.map (.setting .root)
    ++ (if arguments.dryRun then [.dryRun] else []) ++ (if arguments.verbose then [.verbose] else []))

/-- An argument that does not look like an option: a dash alone, or a text that starts with no dash. -/
def IsOperand (text : Text) : Prop := text = "-" ∨ text.head? ≠ some '-'

instance (text : Text) : Decidable (IsOperand text) := inferInstanceAs (Decidable (_ ∨ _))

/-- An item in the arguments that spell it. -/
inductive Phrase where
  | name (text : Text)
  /-- A setting with its value behind an equals sign. -/
  | joined (setting : Setting) (value : Text)
  /-- A setting with its value as the next argument. -/
  | apart (setting : Setting) (value : Text)
  | dryRun
  | verbose
  /-- The letter for verbose. -/
  | letter
  deriving DecidableEq

namespace Phrase

/-- What a phrase says. -/
def item : Phrase → Item
  | .name text => .name text
  | .joined setting value | .apart setting value => .setting setting value
  | .dryRun => .dryRun
  | .verbose | .letter => .verbose

/-- The arguments of a phrase. -/
def arguments : Phrase → List Text
  | .name text => [text]
  | .joined setting value => ["--" ++ setting.name ++ "=" ++ value]
  | .apart setting value => ["--" ++ setting.name, value]
  | .dryRun => ["--dry-run"]
  | .verbose => ["--verbose"]
  | .letter => ["-v"]

/-- A command has the setting of a phrase, the root is not empty, and a text that is an argument of its own is no
option by its looks. -/
def IsFor (command : Command) : Phrase → Prop
  | .name text => IsOperand text
  | .joined setting value => setting ∈ command.settings ∧ (setting = .root → value ≠ [])
  | .apart setting value => setting ∈ command.settings ∧ (setting = .root → value ≠ []) ∧ IsOperand value
  | .dryRun | .verbose | .letter => True

instance (command : Command) : (phrase : Phrase) → Decidable (phrase.IsFor command)
  | .name text => inferInstanceAs (Decidable (IsOperand text))
  | .joined setting value => inferInstanceAs (Decidable (setting ∈ command.settings ∧ (setting = .root → value ≠ [])))
  | .apart setting value =>
    inferInstanceAs (Decidable (setting ∈ command.settings ∧ (setting = .root → value ≠ []) ∧ IsOperand value))
  | .dryRun | .verbose | .letter => inferInstanceAs (Decidable True)

end Phrase

/-- Phrases, and the names behind the separator if there is one. -/
structure Wording where
  phrases : List Phrase
  behind : Option (List Text)
  deriving DecidableEq

namespace Wording

/-- What a wording says. -/
def items (wording : Wording) : List Item :=
  wording.phrases.map Phrase.item ++ (wording.behind.getD []).map .name

/-- The command line of a wording. -/
def arguments (wording : Wording) : List Text :=
  wording.phrases.flatMap Phrase.arguments ++ (match wording.behind with
    | none => []
    | some names => "--" :: names)

/-- All phrases are for a command. -/
def IsFor (command : Command) (wording : Wording) : Prop := ∀ phrase ∈ wording.phrases, phrase.IsFor command

instance (command : Command) (wording : Wording) : Decidable (wording.IsFor command) :=
  inferInstanceAs (Decidable (∀ phrase ∈ wording.phrases, phrase.IsFor command))

end Wording

/-- Some phrase for a command begins with an argument. -/
def Command.Knows (command : Command) (text : Text) : Prop :=
  ∃ phrase : Phrase, phrase.IsFor command ∧ phrase.arguments.head? = some text

end Scaffold
