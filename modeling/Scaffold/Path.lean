import Scaffold.Text

/-!
# Paths

A path is a text in which slashes separate pieces. Joining and taking the parent work on the text and
keep its spelling; two spellings are the same path if their components agree. A slash in front makes a
path absolute. Empty pieces and inner dots are no components, a dot that starts a relative path is.
-/

namespace Scaffold.Path

/-- What a path says about the way it leads. -/
inductive Component where
  /-- The leading slash. -/
  | root
  /-- The leading dot of a relative path. -/
  | here
  | up
  | name (text : Text)
  deriving DecidableEq

/-- Whether a path starts at the root. -/
def isAbsolute (path : Text) : Bool := path.head? == some '/'

/-- A path seen from another. An absolute path replaces the other; else a slash is put between the two
unless the first is empty or ends in one. -/
def join (base path : Text) : Text :=
  if isAbsolute path then path
  else if base = [] || base.getLast? == some '/' then base ++ path
  else base ++ '/' :: path

/-- The leading slash or dot of a path and the rest, which is cut into pieces. -/
def anchored : Text → Text × Text
  | '/' :: body => (['/'], body)
  | ['.'] => (['.'], [])
  | '.' :: '/' :: body => (['.'], '/' :: body)
  | path => ([], path)

/-- Pieces that lead nowhere. -/
def isVoid (piece : Text) : Bool := piece == [] || piece == ['.']

/-- The component a piece stands for. -/
def Component.ofPiece (piece : Text) : Component :=
  if piece = ['.', '.'] then .up else .name piece

/-- The component the start of a path stands for. -/
def Component.ofAnchor : Text → List Component
  | ['/'] => [.root]
  | ['.'] => [.here]
  | _ => []

/-- The components of a path in order. -/
def components (path : Text) : List Component :=
  let (anchor, body) := anchored path
  Component.ofAnchor anchor
    ++ ((Text.cut '/' body).filter fun piece => !isVoid piece).map Component.ofPiece

/-- Pieces without those at the end that lead nowhere. -/
def trimEnd (pieces : List Text) : List Text := (pieces.reverse.dropWhile isVoid).reverse

/-- The path without its last component, spelled as it is up to the component before. The root and the
empty path have no parent. -/
def parent? (path : Text) : Option Text :=
  let (anchor, body) := anchored path
  match trimEnd (Text.cut '/' body) with
  | [] => if anchor = ['.'] then some [] else none
  | pieces => some (anchor ++ Text.joinWith '/' (trimEnd pieces.dropLast))

/-- The last component of a path if it is a name. -/
def fileName? (path : Text) : Option Text :=
  match (components path).getLast? with
  | some (.name text) => some text
  | _ => none

end Scaffold.Path
