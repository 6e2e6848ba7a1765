import Scaffold.Text
import Scaffold.Text.Case
import Scaffold.Text.PrintTable

/-!
# Quoted text

A text between double quotes, in which each character stands for itself unless it would end the
quotation, start an escape, or not be seen.
-/

namespace Scaffold.Text

/-- Characters with a printed form of their own. -/
def isPrintable (c : Char) : Bool := !inRanges unprintableRanges c

/-- Marks that merge with the character before them. -/
def isExtender (c : Char) : Bool := inRanges extenderRanges c

/-- A character by its code point. -/
def codeEscape (c : Char) : Text := "\\u\x7b" ++ hex c.toNat ++ "\x7d"

/-- A character as it stands in a quotation. -/
def escapeChar (c : Char) : Text :=
  if c = '\x00' then "\\0"
  else if c = '\t' then "\\t"
  else if c = '\r' then "\\r"
  else if c = '\n' then "\\n"
  else if c = '\\' then "\\\\"
  else if c = '"' then "\\\""
  else if isExtender c then codeEscape c
  else if isPrintable c then [c]
  else codeEscape c

/-- A text in double quotes. -/
def quoted (text : Text) : Text := '"' :: text.flatMap escapeChar ++ "\""

end Scaffold.Text
