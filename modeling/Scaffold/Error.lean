import Scaffold.Fault
import Scaffold.Name
import Scaffold.Text.Quoted

/-!
# Errors

Every error ends the run that meets it. An error is kept as its cause; the words are chosen in one
place.
-/

namespace Scaffold

/-- Why a template gave no text. -/
inductive TemplateFault where
  | notFound (name : Text)
  /-- The first expression that was reached and has no value stands on this line. -/
  | undefined (name : Text) (line : Nat)
  deriving DecidableEq

/-- Why there is no root to write below. -/
inductive LayoutFault where
  | noGrandparent (tool : Text)
  /-- A fault in the words of whoever found it. -/
  | reported (text : Text)
  deriving DecidableEq

/-- What can go wrong in a run. -/
inductive Error where
  | io (fault : Fault)
  | write (path : Text) (fault : Fault)
  | template (fault : TemplateFault)
  | validation (fault : NameFault)
  | layout (fault : LayoutFault)
  deriving DecidableEq

/-- The fault in words. -/
def LayoutFault.text : LayoutFault → Text
  | .noGrandparent tool => "'" ++ tool ++ "' has no directory two levels above it"
  | .reported text => text

/-- The fault in words. -/
def TemplateFault.text : TemplateFault → Text
  | .notFound name => "template not found: template " ++ Text.quoted name ++ " does not exist"
  | .undefined name line => "undefined value (in " ++ name ++ ":" ++ Text.ofNat line ++ ")"

/-- The sentence shown for an error. -/
def Error.message : Error → Text
  | .io fault => "IO error: " ++ fault.text ++ "."
  | .write path fault => "Failed to write '" ++ path ++ "': " ++ fault.text ++ "."
  | .template fault => "Template error: " ++ fault.text ++ "."
  | .validation fault => "Validation error: " ++ fault.text ++ "."
  | .layout fault => "Output layout error: " ++ fault.text ++ "."

end Scaffold
