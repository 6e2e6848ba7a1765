/-!
# Text

A text is a list of characters, so that what holds of a text is shown by recursion on it. Texts are
cut at a character, joined by one, split into lines and measured in bytes of their UTF-8 form.
-/

namespace Scaffold

/-- Characters in order. -/
abbrev Text := List Char

instance : Coe String Text := ⟨String.toList⟩

namespace Text

/-- The pieces between the occurrences of a character, always one more than there are of it. -/
def cut (sep : Char) : Text → List Text
  | [] => [[]]
  | c :: cs =>
    if c = sep then [] :: cut sep cs
    else
      match cut sep cs with
      | [] => [[c]]
      | piece :: pieces => (c :: piece) :: pieces

/-- The pieces in order with a character between each two. -/
def joinWith (sep : Char) : List Text → Text
  | [] => []
  | [piece] => piece
  | piece :: pieces => piece ++ sep :: joinWith sep pieces

/-- Texts in order with a text between each two. -/
def separatedBy (sep : Text) : List Text → Text
  | [] => []
  | [piece] => piece
  | piece :: pieces => piece ++ sep ++ separatedBy sep pieces

/-- Decimal digits. -/
def ofNat (n : Nat) : Text := Nat.toDigits 10 n

/-- Decimal digits behind a minus sign where the number is negative. -/
def ofInt : Int → Text
  | .ofNat n => ofNat n
  | .negSucc n => '-' :: ofNat (n + 1)

/-- Hexadecimal digits with small letters. -/
def hex (n : Nat) : Text := Nat.toDigits 16 n

/-- The number of bytes of the UTF-8 form. -/
def byteLength (text : Text) : Nat := text.foldr (fun c rest => c.utf8Size + rest) 0

/-- Cuts off a carriage return at the end. -/
def dropReturn (line : Text) : Text :=
  if line.getLast? = some '\r' then line.dropLast else line

/-- The lines of a text. A line ends with a line feed, which a carriage return may precede, or with
the text; no line follows a final line feed. -/
def lines (text : Text) : List Text :=
  let pieces := cut '\n' text
  let ended := pieces.dropLast.map dropReturn
  match pieces.getLast? with
  | none | some [] => ended
  | some rest => ended ++ [rest]

end Text

end Scaffold
