import Scaffold.Text
import Scaffold.Proofs.Cpp.Token

/-! What the lines of a header or a source of a class say. The reader is strict: it knows the forms that
such files are made of, looks at where a word stands rather than at what it is, and reads nothing else. In
particular a constructor is only declared behind the word `explicit`, so that a call of a macro cannot be
taken for one, however the class is called. -/

namespace Scaffold.Cpp

/-- A constructor or the destructor of a class, with the types of its parameters. -/
structure Member where
  type : Text
  isDestructor : Bool
  parameters : List (List Token)
  deriving DecidableEq

/-- A member that is defined, with the names of what it initialises in order. -/
structure Definition where
  member : Member
  initialised : List Text
  deriving DecidableEq

/-- What a line says. -/
inductive Line where
  | blank
  /-- An include directive, whatever it includes. -/
  | inclusion
  | directive (name : Text) (argument : List Token)
  | namespaceOpens (name : Text)
  | namespaceCloses (name : Text)
  /-- Braces around the members of a class or the statements of a body. -/
  | braces
  | forward (type : Text)
  /-- The head of a class, with its parent class. -/
  | head (type : Text) (parent? : Option Text)
  | access (level : Text)
  | macroUse (name : Text) (argument? : Option Text)
  | field (type : List Token) (name : Text)
  | declares (member : Member)
  | defines (definition : Definition)
  deriving DecidableEq

/-- The type of pointers to a class. -/
def pointerTo (type : Text) : List Token := [.word type, .mark '*']

/-- The type of pointers that own what they point to. -/
def scopedPointerTo (type : Text) : List Token := [.word "QScopedPointer", .mark '<', .word type, .mark '>']

/-- The types of parameters between brackets, each of which has a name and may have a default value. -/
def parameterTypes : List Token → List (List Token)
  | [] => []
  | ts => (ts.splitOn (.mark ',')).map fun parameter => (parameter.takeWhile (· ≠ .mark '=')).dropLast

/-- A member from its name on, and what stands behind its parameters. -/
def Member.read? : List Token → Option (Member × List Token)
  | .mark '~' :: .word type :: .mark '(' :: ts => behind type true ts
  | .word type :: .mark '(' :: ts => behind type false ts
  | _ => none
where
  behind (type : Text) (isDestructor : Bool) (ts : List Token) : Option (Member × List Token) :=
    match ts.dropWhile (· ≠ .mark ')') with
    | [] => none
    | _ :: rest => some (⟨type, isDestructor, parameterTypes (ts.takeWhile (· ≠ .mark ')'))⟩, rest)

/-- The words outside brackets. -/
def outerWords : Nat → List Token → List Text
  | _, [] => []
  | depth, .mark '(' :: ts => outerWords (depth + 1) ts
  | depth, .mark ')' :: ts => outerWords (depth - 1) ts
  | 0, .word w :: ts => w :: outerWords 0 ts
  | depth, _ :: ts => outerWords depth ts

/-- What a definition initialises. Its body is empty or stands on other lines. -/
def initialised? (ts : List Token) : Option (List Text) :=
  if ts.dropWhile (· ≠ .mark '{') = [] ∨ ts.dropWhile (· ≠ .mark '{') = [.mark '{', .mark '}'] then
    match ts.takeWhile (· ≠ .mark '{') with
    | [] => some []
    | .mark ':' :: initialisers => some (outerWords 0 initialisers)
    | _ => none
  else none

namespace Line

/-- A line of marks only, or a line that a mark starts. -/
def ofMarks? : List Token → Option Line
  | [] => some .blank
  | [.mark '{'] | [.mark '}'] | [.mark '}', .mark ';'] => some .braces
  | .mark '#' :: .word name :: argument =>
    if name = "include" then some .inclusion else some (.directive name argument)
  | [.mark '}', .mark '/', .mark '/', .word keyword, .word name] =>
    if keyword = "namespace" then some (.namespaceCloses name) else none
  | _ => none

def ofNamespace? : List Token → Option Line
  | [.word keyword, .word name, .mark '{'] => if keyword = "namespace" then some (.namespaceOpens name) else none
  | _ => none

/-- The head of a class, where a macro may stand before its name. -/
def ofClass? : List Token → Option Line
  | [.word keyword, .word type, .mark ';'] => if keyword = "class" then some (.forward type) else none
  | [.word keyword, .word type] => if keyword = "class" then some (.head type none) else none
  | [.word keyword, .word type, .mark ':', .word level, .word parent]
  | [.word keyword, .word _, .word type, .mark ':', .word level, .word parent] =>
    if keyword = "class" ∧ level = "public" then some (.head type (some parent)) else none
  | _ => none

def ofAccess? : List Token → Option Line
  | [.word level, .mark ':'] =>
    if level = "public" ∨ level = "protected" ∨ level = "private" then some (.access level) else none
  | _ => none

def ofMacro? : List Token → Option Line
  | [.word name] => if name = "Q_OBJECT" then some (.macroUse name none) else none
  | [.word name, .mark '(', .word argument, .mark ')', .mark ';'] =>
    if name = "Q_DECLARE_PRIVATE" ∨ name = "Q_DECLARE_PUBLIC" then some (.macroUse name (some argument)) else none
  | _ => none

/-- A field that is a pointer of one of the two kinds. -/
def ofField? : List Token → Option Line
  | [.word type, .mark '*', .word name, .mark ';'] => some (.field (pointerTo type) name)
  | [.word template, .mark '<', .word type, .mark '>', .word name, .mark ';'] =>
    if template = "QScopedPointer" then some (.field (scopedPointerTo type) name) else none
  | _ => none

def ofDeclaration? : List Token → Option Line
  | .word keyword :: ts =>
    match Member.read? ts with
    | some (member, [.mark ';']) => if keyword = "explicit" then some (.declares member) else none
    | _ => none
  | ts =>
    match Member.read? ts with
    | some (member, [.word keyword, .mark ';']) =>
      if keyword = "override" then some (.declares member) else none
    | _ => none

def ofDefinition? : List Token → Option Line
  | .word type :: .mark ':' :: .mark ':' :: ts =>
    match Member.read? ts with
    | some (member, rest) =>
      if member.type = type then (initialised? rest).map fun names => .defines ⟨member, names⟩ else none
    | none => none
  | _ => none

/-- What the tokens of a line say, if they have one of the known forms. -/
def read? (ts : List Token) : Option Line :=
  [ofDefinition?, ofDeclaration?, ofField?, ofMacro?, ofAccess?, ofClass?, ofNamespace?, ofMarks?].findSome? (· ts)

/-- What a line says, if it has one of the known forms. -/
def ofText? (line : Text) : Option Line := read? (tokens line)

end Line

/-- What the lines of a file say, if each of them has one of the known forms. -/
def outline? (text : Text) : Option (List Line) := (Text.lines text).mapM Line.ofText?

end Scaffold.Cpp
