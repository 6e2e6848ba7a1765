import Scaffold.Decimal.Shortest
import Scaffold.Text.Quoted
import Scaffold.Name
import Scaffold.Profile

/-!
# Values in templates

A template looks names up in a tree of values. A value that is printed by itself shows a text as it is;
inside a list or a map texts are quoted.
-/

namespace Scaffold

/-- What a template can look up and print. -/
inductive Value where
  | null
  | bool (value : Bool)
  | int (value : Int)
  | float (value : Decimal.Binary)
  | text (value : Text)
  | list (items : List Value)
  | map (fields : List (Text × Value))
  deriving Inhabited

namespace Value

/-- The field of a map. No other value has fields. -/
def field? : Value → Text → Option Value
  | .map fields, key => fields.lookup key
  | _, _ => none

/-- Puts a field before the first one with a greater name, in place of one with its own. -/
def insertField (key : Text) (value : Value) : List (Text × Value) → List (Text × Value)
  | [] => [(key, value)]
  | (k, v) :: rest =>
    if key = k then (key, value) :: rest
    else if key < k then (key, value) :: (k, v) :: rest
    else (k, v) :: insertField key value rest

/-- A map with its fields in the order of their names. Of two fields with one name the later counts. -/
def ofFields (fields : List (Text × Value)) : Value :=
  .map (fields.foldl (fun sorted (key, value) => insertField key value sorted) [])

/-- A number printed by itself never has an exponent. -/
def aloneStyle : Decimal.Style := ⟨none⟩

/-- A number inside a list or a map has an exponent if it is below a ten-thousandth or has more than
sixteen digits before the point. -/
def insideStyle : Decimal.Style := ⟨some (-4, 15)⟩

mutual

/-- A value inside a list or a map. -/
def inside : Value → Text
  | .null => "None"
  | .bool true => "True"
  | .bool false => "False"
  | .int n => Text.ofInt n
  | .float x => insideStyle.write x
  | .text t => Text.quoted t
  | .list items => "[" ++ Text.separatedBy ", " (insideItems items) ++ "]"
  | .map fields => "\x7b" ++ Text.separatedBy ", " (insideFields fields) ++ "\x7d"

/-- The items of a list. -/
def insideItems : List Value → List Text
  | [] => []
  | item :: items => inside item :: insideItems items

/-- The fields of a map. -/
def insideFields : List (Text × Value) → List Text
  | [] => []
  | (key, value) :: fields => (Text.quoted key ++ ": " ++ inside value) :: insideFields fields

end

/-- A value printed by itself. -/
def alone : Value → Text
  | .text t => t
  | .float x => aloneStyle.write x
  | value => inside value

/-- The spellings of a name. -/
def ofClassName (name : ClassName) : Value :=
  .map [("lower", .text name.lower), ("pascal", .text name.pascal), ("upper", .text name.upper)]

/-- The conventions of a library. -/
def ofProfile (profile : Profile) : Value :=
  .map [
    ("copyright_holder", .text profile.copyrightHolder),
    ("export_macro", .text profile.exportMacro),
    ("global_header", .text profile.globalHeader),
    ("guard_prefix", .text profile.guardPrefix),
    ("library_dir", .text profile.libraryDir),
    ("namespace", .text profile.nameSpace),
    ("root_base", .text profile.rootBase),
    ("test_registration_macro", .text profile.testRegistrationMacro),
    ("tests_dir", .text profile.testsDir)]

end Value

end Scaffold
