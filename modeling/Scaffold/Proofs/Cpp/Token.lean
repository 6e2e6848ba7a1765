import Scaffold.Proofs.Name.Identifier

/-! The words and marks of a line of source code. A word is a longest run of identifier characters, a mark
is any other character that is no blank. The scan goes from the left and keeps the word it stands in. A line
falls apart where a blank or a mark ends one part of it, and behind a word that a blank or a mark follows. -/

namespace Scaffold.Cpp

/-- What a line consists of. -/
inductive Token where
  | word (text : Text)
  | mark (c : Char)
  deriving DecidableEq

/-- The tokens that lie behind a place in a line, and the word that ends there and may go on. -/
structure Scan where
  done : List Token
  word? : Option Text

namespace Scan

/-- The tokens once it is known that the word does not go on. -/
def finish (scan : Scan) : List Token := scan.done ++ (scan.word?.map Token.word).toList

def step (scan : Scan) (c : Char) : Scan :=
  if isIdentifierPart c then ⟨scan.done, some (scan.word?.getD [] ++ [c])⟩
  else if c = ' ' then ⟨scan.finish, none⟩
  else ⟨scan.finish ++ [.mark c], none⟩

def run (scan : Scan) (t : Text) : Scan := t.foldl step scan

end Scan

/-- The tokens of a line. -/
def tokens (line : Text) : List Token := (Scan.run ⟨[], none⟩ line).finish

/-- Whether a word ends before the text, if there is one. -/
def opensApart (t : Text) : Bool := t.head?.all (!isIdentifierPart ·)

/-- Whether a word starts behind the text, if there is one. -/
def endsApart (t : Text) : Bool := t.getLast?.all (!isIdentifierPart ·)

namespace Scan

@[simp] theorem finish_none (ts : List Token) : finish ⟨ts, none⟩ = ts := List.append_nil ts

theorem run_cons (scan : Scan) (c : Char) (t : Text) : scan.run (c :: t) = (scan.step c).run t := rfl

theorem run_append (scan : Scan) (s t : Text) : scan.run (s ++ t) = (scan.run s).run t :=
  List.foldl_append

theorem step_of_isIdentifierPart {c : Char} (hc : isIdentifierPart c = true) (scan : Scan) :
    scan.step c = ⟨scan.done, some (scan.word?.getD [] ++ [c])⟩ := by
  rw [step, if_pos hc]

theorem step_of_not_isIdentifierPart {c : Char} (hc : isIdentifierPart c = false) (scan : Scan) :
    scan.step c = ⟨scan.finish ++ if c = ' ' then [] else [.mark c], none⟩ := by
  rw [step, if_neg (by rw [hc]; exact Bool.false_ne_true)]
  by_cases hblank : c = ' '
  · rw [if_pos hblank, if_pos hblank, List.append_nil]
  · rw [if_neg hblank, if_neg hblank]

/-- What was read before stays in front. -/
theorem finish_run_append (ts us : List Token) (word? : Option Text) (t : Text) :
    (run ⟨ts ++ us, word?⟩ t).finish = ts ++ (run ⟨us, word?⟩ t).finish := by
  induction t generalizing us word? with
  | nil => simp only [run, List.foldl_nil, finish, List.append_assoc]
  | cons c cs ih =>
      rw [run_cons, run_cons]
      by_cases hc : isIdentifierPart c = true
      · rw [step_of_isIdentifierPart hc, step_of_isIdentifierPart hc]
        exact ih us _
      · rw [Bool.not_eq_true] at hc
        rw [step_of_not_isIdentifierPart hc, step_of_not_isIdentifierPart hc]
        simp only [finish, List.append_assoc]
        exact ih _ none

/-- A word goes on through identifier characters. -/
theorem run_some {t : Text} (ht : IsWord t) (ts : List Token) (w : Text) :
    run ⟨ts, some w⟩ t = ⟨ts, some (w ++ t)⟩ := by
  induction t generalizing w with
  | nil => rw [List.append_nil]; rfl
  | cons c cs ih =>
      have hcs : IsWord cs := fun d hd => ht d (List.mem_cons_of_mem c hd)
      rw [run_cons, step_of_isIdentifierPart (ht c List.mem_cons_self)]
      show run ⟨ts, some (w ++ [c])⟩ cs = _
      rw [ih hcs, List.append_assoc, List.singleton_append]

theorem run_of_isIdentifier {w : Text} (hw : isIdentifier w = true) : run ⟨[], none⟩ w = ⟨[], some w⟩ := by
  have hword := isWord_of_isIdentifier hw
  obtain ⟨c, cs, rfl⟩ := List.exists_cons_of_ne_nil (ne_nil_of_isIdentifier hw)
  rw [run_cons, step_of_isIdentifierPart (hword c List.mem_cons_self)]
  exact run_some (fun d hd => hword d (List.mem_cons_of_mem c hd)) [] [c]

theorem run_of_endsApart {s : Text} (hs : endsApart s = true) : run ⟨[], none⟩ s = ⟨tokens s, none⟩ := by
  rcases List.eq_nil_or_concat s with rfl | ⟨front, c, rfl⟩
  · rfl
  · rw [List.concat_eq_append, endsApart, List.getLast?_concat, Option.all_some, Bool.not_eq_true'] at hs
    have hrun : run ⟨[], none⟩ (front ++ [c]) =
        ⟨(run ⟨[], none⟩ front).finish ++ if c = ' ' then [] else [.mark c], none⟩ := by
      rw [run_append, run_cons, step_of_not_isIdentifierPart hs]
      rfl
    rw [List.concat_eq_append, tokens, hrun, finish_none]

end Scan

theorem tokens_append {s : Text} (hs : endsApart s = true) (t : Text) :
    tokens (s ++ t) = tokens s ++ tokens t := by
  have hshift := Scan.finish_run_append (tokens s) [] none t
  rw [List.append_nil] at hshift
  rw [tokens, Scan.run_append, Scan.run_of_endsApart hs, hshift]
  rfl

theorem tokens_word_append {w : Text} (hw : isIdentifier w = true) {s : Text} (hs : opensApart s = true) :
    tokens (w ++ s) = .word w :: tokens s := by
  rw [tokens, Scan.run_append, Scan.run_of_isIdentifier hw]
  cases s with
  | nil => rfl
  | cons c cs =>
      rw [opensApart, List.head?_cons, Option.all_some, Bool.not_eq_true'] at hs
      rw [tokens, Scan.run_cons, Scan.run_cons, Scan.step_of_not_isIdentifierPart hs,
        Scan.step_of_not_isIdentifierPart hs]
      exact Scan.finish_run_append [.word w] _ none cs

theorem tokens_word_append_append {w : Text} (hw : isIdentifier w = true) {s : Text} (hne : s ≠ [])
    (hs : opensApart s = true) (t : Text) : tokens (w ++ (s ++ t)) = .word w :: tokens (s ++ t) := by
  apply tokens_word_append hw
  obtain ⟨c, cs, rfl⟩ := List.exists_cons_of_ne_nil hne
  exact hs

theorem tokens_word {w : Text} (hw : isIdentifier w = true) : tokens w = [.word w] := by
  have htokens := tokens_word_append hw (s := []) rfl
  rwa [List.append_nil] at htokens

end Scaffold.Cpp
