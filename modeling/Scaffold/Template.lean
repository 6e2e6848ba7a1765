import Scaffold.Value

/-!
# Templates

A template is text with holes for values and choices between two texts. A hole names a value and the
fields to take of it in turn; a choice compares such a value with a word. A name that is not defined
stops the rendering at the line that asks for it, so that a template never writes half of what it says.
What stands in the branch that is not taken is not looked at.
-/

namespace Scaffold

/-- A value by its name and the fields to take of it in turn. -/
structure Reference where
  name : Text
  fields : List Text
  deriving DecidableEq

/-- Text as it stands, or the place of a value. -/
inductive Piece where
  | text (text : Text)
  | hole (what : Reference) (line : Nat)
  deriving DecidableEq

/-- A piece, or the choice between the pieces for a value that is the word and those for any other. -/
inductive Block where
  | piece (piece : Piece)
  | choice (subject : Reference) (word : Text) (line : Nat) (same other : List Piece)
  deriving DecidableEq

/-- Blocks in order. -/
abbrev Template := List Block

/-- The value a reference leads to. It has none if the context has no such name, or a value on the way
no such field. -/
def Reference.value? (context : Value) (what : Reference) : Option Value :=
  what.fields.foldl (fun value field => value.bind (·.field? field)) (context.field? what.name)

/-- The text of a piece, or the line where a value is missing. -/
def Piece.render (context : Value) : Piece → Except Nat Text
  | .text t => .ok t
  | .hole what line =>
    match what.value? context with
    | some value => .ok value.alone
    | none => .error line

/-- The texts of all pieces, or the line of the first that fails. -/
def Piece.renderAll (context : Value) : List Piece → Except Nat Text
  | [] => .ok []
  | head :: tail => do
    let shown ← head.render context
    let rest ← renderAll context tail
    return shown ++ rest

/-- Whether a value is the given word. Only texts are. -/
def Value.isWord (word : Text) : Value → Bool
  | .text t => t == word
  | _ => false

/-- The text of a block, or the line where a value is missing. -/
def Block.render (context : Value) : Block → Except Nat Text
  | .piece single => single.render context
  | .choice subject word line same other =>
    match subject.value? context with
    | none => .error line
    | some value => Piece.renderAll context (if value.isWord word then same else other)

/-- The text of a template, or the line of the first value that is missing. -/
def Template.render (context : Value) : Template → Except Nat Text
  | [] => .ok []
  | block :: blocks => do
    let shown ← block.render context
    let rest ← render context blocks
    return shown ++ rest

end Scaffold
