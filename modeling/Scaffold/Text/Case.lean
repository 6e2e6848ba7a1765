import Scaffold.Text
import Scaffold.Text.CaseTable

/-!
# Folding the case of a text

The capital form of a text is made character by character. So is the small form, but for the capital
sigma, whose small form depends on where in a word it stands: it is final after a cased character and
before none, where characters that casing ignores do not count.
-/

namespace Scaffold.Text

/-- The expansion a table gives, else the image in the first run that has the code point. -/
def foldCode (expansions : List (Nat × List Nat)) (runs : List CaseRun) (code : Nat) : List Nat :=
  match expansions.lookup code with
  | some codes => codes
  | none => [(runs.findSome? (·.fold? code)).getD code]

/-- The capital form of a character. -/
def upperChar (c : Char) : Text :=
  (foldCode upperExpansions upperRuns c.toNat).map Char.ofNat

/-- The small form of a character that stands alone. -/
def lowerChar (c : Char) : Text :=
  (foldCode lowerExpansions lowerRuns c.toNat).map Char.ofNat

/-- Membership of a code point in ranges given by their ends. -/
def inRanges (ranges : List (Nat × Nat)) (c : Char) : Bool :=
  ranges.any fun (first, last) => first ≤ c.toNat && c.toNat ≤ last

/-- Capital, small or title-case characters. -/
def isCased (c : Char) : Bool := inRanges casedRanges c

/-- Characters that casing looks past. -/
def isCaseIgnorable (c : Char) : Bool := inRanges caseIgnorableRanges c

/-- Whether the first character that casing does not look past is cased. -/
def meetsCased (text : Text) : Bool :=
  match text.dropWhile isCaseIgnorable with
  | [] => false
  | c :: _ => isCased c

/-- The capital sigma. -/
def capitalSigma : Char := 'Σ'

/-- The small sigma for a capital one between two texts, the first of them read backwards. -/
def smallSigma (before after : Text) : Char :=
  if meetsCased before && !meetsCased after then 'ς' else 'σ'

/-- The small form of a text that follows another, which is given backwards. -/
def lowerAfter : Text → Text → Text
  | _, [] => []
  | before, c :: cs =>
    (if c = capitalSigma then [smallSigma before cs] else lowerChar c) ++ lowerAfter (c :: before) cs

/-- The small form of a text. -/
def lower (text : Text) : Text := lowerAfter [] text

/-- The capital form of a text. -/
def upper (text : Text) : Text := text.flatMap upperChar

end Scaffold.Text
