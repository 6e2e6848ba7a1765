import Scaffold.Text.Case

/-!
# Class names

A class is known by three spellings: the one it was given, which names the type, a small one for the
names of its files and a capital one for its include guards. Both folds take the name as a whole, so
that no underscore is ever put between its words.
-/

namespace Scaffold

/-- The spellings of the name of a class. -/
structure ClassName where
  pascal : Text
  lower : Text
  upper : Text
  deriving DecidableEq, Repr

/-- What is wrong with a name. -/
inductive NameFault where
  | empty
  | noIdentifier (name : Text)
  /-- The base class would have the files of the class. -/
  | sameFiles (class_ base : ClassName)
  /-- A fault in the words of whoever found it. -/
  | reported (text : Text)
  deriving DecidableEq

/-- The fault in words. -/
def NameFault.text : NameFault → Text
  | .empty => "class name must not be empty"
  | .noIdentifier name =>
    "'" ++ name ++ "' is not a valid identifier (expected letters, digits and underscores, "
      ++ "not starting with a digit)"
  | .sameFiles class_ base =>
    "class '" ++ class_.pascal ++ "' cannot derive from '" ++ base.pascal ++ "': both map to '"
      ++ class_.lower ++ ".h' and '" ++ class_.lower ++ "private.h'"
  | .reported text => text

/-- Characters an identifier may start with: the letters of ASCII and the underscore. -/
def isIdentifierStart (c : Char) : Bool := c.isAlpha || c == '_'

/-- Characters an identifier may go on with. -/
def isIdentifierPart (c : Char) : Bool := c.isAlphanum || c == '_'

/-- Whether a text as a whole is an identifier. -/
def isIdentifier : Text → Bool
  | [] => false
  | c :: cs => isIdentifierStart c && cs.all isIdentifierPart

/-- The spellings of any text. -/
def ClassName.derive (name : Text) : ClassName := ⟨name, Text.lower name, Text.upper name⟩

/-- Refuses what cannot name a class. -/
def validateName (name : Text) : Except NameFault Unit :=
  if name = [] then .error .empty
  else if isIdentifier name then .ok ()
  else .error (.noIdentifier name)

/-- The spellings of a name that can name a class. -/
def ClassName.parse (name : Text) : Except NameFault ClassName :=
  (validateName name).map fun _ => .derive name

end Scaffold
