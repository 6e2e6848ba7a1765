import Scaffold.Template

/-!
# Reading templates

In the source of a template a hole is written between double braces and a tag between a brace and a
percent sign on each side. Tags open, divide and close a choice; they stand on lines of their own,
which vanish with the blanks before the tag and the line feed after it.

    {% if variant == "derived" %}
    class {{ class.pascal }} : public {{ base.pascal }}
    {% else %}
    class {{ class.pascal }}
    {% endif %}
-/

namespace Scaffold

/-- A stretch of a source. Holes and tags know the line they start on. -/
inductive Token where
  | text (text : Text)
  | hole (inside : Text) (line : Nat)
  | tag (inside : Text) (line : Nat)
  deriving DecidableEq

namespace Token

/-- What is being read, with the characters read so far in reverse. -/
inductive Mode where
  | text (read : Text)
  | hole (read : Text)
  | tag (read : Text)

/-- The line after a character. -/
def nextLine (line : Nat) (c : Char) : Nat := if c = '\n' then line + 1 else line

/-- Splits a source into stretches; `none` if a hole or a tag is not closed. -/
def scan : Nat → Mode → Text → Option (List Token)
  | _, .text read, [] => some [.text read.reverse]
  | _, .hole _, [] => none
  | _, .tag _, [] => none
  | line, .text read, '\x7b' :: '\x7b' :: cs =>
    (scan line (.hole []) cs).map (.text read.reverse :: ·)
  | line, .text read, '\x7b' :: '%' :: cs =>
    (scan line (.tag []) cs).map (.text read.reverse :: ·)
  | line, .hole read, '\x7d' :: '\x7d' :: cs =>
    (scan line (.text []) cs).map (.hole read.reverse line :: ·)
  | line, .tag read, '%' :: '\x7d' :: cs =>
    (scan line (.text []) cs).map (.tag read.reverse line :: ·)
  | line, .text read, c :: cs => scan (nextLine line c) (.text (c :: read)) cs
  | line, .hole read, c :: cs => scan (nextLine line c) (.hole (c :: read)) cs
  | line, .tag read, c :: cs => scan (nextLine line c) (.tag (c :: read)) cs

/-- A text without the blanks before a tag, if the tag is the first thing on its line. -/
def dropIndent (t : Text) : Text :=
  let kept := t.reverse.dropWhile fun c => c == ' ' || c == '\t'
  match kept with
  | [] => []
  | c :: _ => if c = '\n' then kept.reverse else t

/-- A text without the end of the line of the tag before it. -/
def dropLineEnd : Text → Text
  | '\n' :: cs => cs
  | '\r' :: '\n' :: cs => cs
  | t => t

/-- Removes the lines of tags: the flag tells whether a tag stands before the tokens. -/
def dropTagLines : Bool → List Token → List Token
  | _, [] => []
  | after, .text t :: rest =>
    let ended := if after then dropLineEnd t else t
    let kept :=
      match rest with
      | .tag _ _ :: _ => dropIndent ended
      | _ => ended
    .text kept :: dropTagLines false rest
  | _, .hole inside line :: rest => .hole inside line :: dropTagLines false rest
  | _, .tag inside line :: rest => .tag inside line :: dropTagLines true rest

end Token

/-- The words of a text. -/
def Text.words (text : Text) : List Text := (Text.cut ' ' text).filter (· ≠ [])

/-- The reference that a word spells. -/
def Reference.read? (word : Text) : Option Reference :=
  match Text.cut '.' word with
  | [] => none
  | name :: fields => if [] ∈ name :: fields then none else some ⟨name, fields⟩

/-- The text between double quotes. -/
def unquote? : Text → Option Text
  | '"' :: cs => if cs.getLast? = some '"' then some cs.dropLast else none
  | _ => none

/-- What a tag does. -/
inductive Tag where
  | choose (subject : Reference) (word : Text)
  | otherwise
  | close

/-- The tag its inside spells. -/
def Tag.read? (inside : Text) : Option Tag :=
  match Text.words inside with
  | [first] =>
    if first = ("else" : Text) then some .otherwise
    else if first = ("endif" : Text) then some .close
    else none
  | [first, subject, relation, word] =>
    if first = ("if" : Text) && relation = ("==" : Text) then do
      return .choose (← Reference.read? subject) (← unquote? word)
    else none
  | _ => none

/-- A choice that is not closed yet. -/
structure OpenChoice where
  subject : Reference
  word : Text
  line : Nat
  same : List Piece
  /-- The pieces for any other value, once they have begun. -/
  other : Option (List Piece)

namespace OpenChoice

/-- Adds a piece to the branch being read. -/
def add (choice : OpenChoice) (piece : Piece) : OpenChoice :=
  match choice.other with
  | none => { choice with same := choice.same ++ [piece] }
  | some other => { choice with other := some (other ++ [piece]) }

/-- The block of a choice. -/
def close (choice : OpenChoice) : Block :=
  .choice choice.subject choice.word choice.line choice.same (choice.other.getD [])

end OpenChoice

/-- Puts tokens together to blocks. Choices do not nest. -/
def Template.ofTokens? : Option OpenChoice → List Token → Option Template
  | none, [] => some []
  | some _, [] => none
  | none, .text t :: rest => (ofTokens? none rest).map (.piece (.text t) :: ·)
  | some choice, .text t :: rest => ofTokens? (some (choice.add (.text t))) rest
  | none, .hole inside line :: rest =>
    match Text.words inside with
    | [word] => do
      let what ← Reference.read? word
      let blocks ← ofTokens? none rest
      return .piece (.hole what line) :: blocks
    | _ => none
  | some choice, .hole inside line :: rest =>
    match Text.words inside with
    | [word] => do
      let what ← Reference.read? word
      ofTokens? (some (choice.add (.hole what line))) rest
    | _ => none
  | none, .tag inside line :: rest =>
    match Tag.read? inside with
    | some (.choose subject word) => ofTokens? (some ⟨subject, word, line, [], none⟩) rest
    | _ => none
  | some choice, .tag inside _ :: rest =>
    match Tag.read? inside with
    | some .otherwise =>
      if choice.other.isNone then ofTokens? (some { choice with other := some [] }) rest else none
    | some .close => (ofTokens? none rest).map (choice.close :: ·)
    | _ => none

/-- The template a source spells. -/
def Template.read? (source : Text) : Option Template :=
  (Token.scan 1 (.text []) source).bind fun tokens =>
    Template.ofTokens? none (Token.dropTagLines false tokens)

end Scaffold
