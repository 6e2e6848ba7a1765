import Scaffold.Proofs.Name.Identifier
import Scaffold.Proofs.Text.Lines

/-! Names in quotes behind include directives. Blanks may stand in front of the directive and between its
parts; what is quoted ends with the next quotation mark. A line says nothing of the kind if something else
than a number sign starts it. -/

namespace Scaffold.Cpp

def skipBlanks (t : Text) : Text := t.dropWhile fun c => c = ' ' || c = '\t'

/-- The name in quotes that a line includes. -/
def quoted? (line : Text) : Option Text :=
  match skipBlanks line with
  | '#' :: directive =>
    if ("include" : Text).isPrefixOf (skipBlanks directive) then
      match skipBlanks ((skipBlanks directive).drop 7) with
      | '"' :: name => some (name.takeWhile (· ≠ '"'))
      | _ => none
    else none
  | _ => none

/-- The names in quotes that a file includes, in order. -/
def quotedIncludes (text : Text) : List Text := (Text.lines text).filterMap quoted?

/-- Whether a line that starts so is no directive. -/
def isPlain (t : Text) : Bool := (skipBlanks t).head?.any (· ≠ '#')

theorem isPlain_of_isIdentifier {w : Text} (hw : isIdentifier w = true) : isPlain w = true := by
  have hword := isWord_of_isIdentifier hw
  obtain ⟨c, cs, rfl⟩ := List.exists_cons_of_ne_nil (ne_nil_of_isIdentifier hw)
  have hne : ∀ d, isIdentifierPart d = false → c ≠ d := by
    rintro d hd rfl
    exact hword.notMem hd List.mem_cons_self
  have hskip : skipBlanks (c :: cs) = c :: cs := by
    rw [skipBlanks, List.dropWhile_cons_of_neg]
    simp [hne ' ' (by decide), hne '\t' (by decide)]
  rw [isPlain, hskip]
  simp [hne '#' (by decide)]

/-- What follows the start of a line does not make it a directive. -/
theorem skipBlanks_append_ne {s : Text} (hs : isPlain s = true) (t directive : Text) :
    skipBlanks (s ++ t) ≠ '#' :: directive := by
  rw [isPlain, Option.any_eq_true] at hs
  obtain ⟨c, hhead, hne⟩ := hs
  obtain ⟨rest, hskip⟩ := List.head?_eq_some_iff.mp hhead
  have happend : skipBlanks (s ++ t) = c :: (rest ++ t) := by
    have hdrop : skipBlanks (s ++ t) = if (skipBlanks s).isEmpty then skipBlanks t else skipBlanks s ++ t :=
      List.dropWhile_append
    rw [hdrop, hskip]
    rfl
  have hmark : c ≠ '#' := by simpa using hne
  rw [happend]
  exact fun h => hmark (List.cons.inj h).1

theorem quoted?_append {s : Text} (hs : isPlain s = true) (t : Text) : quoted? (s ++ t) = none := by
  unfold quoted?
  split
  next directive hdirective => exact absurd hdirective (skipBlanks_append_ne hs t directive)
  next => rfl

theorem quoted?_of_isPlain {line : Text} (hline : isPlain line = true) : quoted? line = none := by
  rw [← List.append_nil line]
  exact quoted?_append hline []

/-! ### Directives -/

theorem takeWhile_append_of_notMem {s : Text} (hs : '"' ∉ s) (t : Text) :
    (s ++ t).takeWhile (· ≠ '"') = s ++ t.takeWhile (· ≠ '"') := by
  apply List.takeWhile_append_of_pos
  intro c hc
  rw [decide_eq_true_eq]
  rintro rfl
  exact hs hc

theorem quoted?_empty : quoted? "" = none := rfl

theorem quoted?_ifndef (t : Text) : quoted? ("#ifndef " ++ t) = none := rfl

theorem quoted?_define (t : Text) : quoted? ("#define " ++ t) = none := rfl

theorem quoted?_endif (t : Text) : quoted? ("#endif // " ++ t) = none := rfl

theorem quoted?_include (t : Text) : quoted? ("#include \"" ++ t) = some (t.takeWhile (· ≠ '"')) := rfl

theorem quoted?_include_up (t : Text) :
    quoted? ("#include \"../inc/" ++ t) = some ("../inc/" ++ t.takeWhile (· ≠ '"')) := rfl

theorem quoted?_include_test (t : Text) :
    quoted? ("#include \"tst_" ++ t) = some ("tst_" ++ t.takeWhile (· ≠ '"')) := rfl

theorem quoted?_indented (t : Text) : quoted? ("    " ++ t) = quoted? t := rfl

/-- What is included in angle brackets is not quoted. -/
theorem quoted?_of_isPrefixOf {line : Text} (hline : ("#include <" : Text).isPrefixOf line = true) :
    quoted? line = none := by
  obtain ⟨t, rfl⟩ := List.isPrefixOf_iff_prefix.mp hline
  rfl

end Scaffold.Cpp
