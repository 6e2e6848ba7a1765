import Scaffold.Proofs.Name.Identifier
import Scaffold.Text.Visible

/-! What is left of a text that goes through a stream. Characters are left out and none is changed, and of the control
characters only the blank ones are left. A text without any other control character is shown as it is. -/

namespace Scaffold.Text

/-- There is no control character in the text but blank ones. -/
def IsVisible (t : Text) : Prop := ∀ c ∈ t, isVisible c = true

variable {resumes : Bool} {reading : Reading} {s t : Text}

namespace IsVisible

theorem of_all (ht : t.all isVisible = true) : IsVisible t := List.all_eq_true.mp ht

theorem append (hs : IsVisible s) (ht : IsVisible t) : IsVisible (s ++ t) := by
  intro c hc
  exact (List.mem_append.mp hc).elim (hs c) (ht c)

theorem prepend (ht : IsVisible t) (hs : s.all isVisible = true) : IsVisible (s ++ t) := (of_all hs).append ht

theorem of_isWord (ht : IsWord t) : IsVisible t := by
  intro c hc
  exact of_ascii (p := fun c => isIdentifierPart c = true → isVisible c = true) (by decide)
    (toNat_lt_of_isIdentifierPart (ht c hc)) (ht c hc)

theorem ofNat (n : Nat) : IsVisible (ofNat n) := by
  refine of_isWord fun c hc => ?_
  have hdigit : c.isDigit = true := Nat.isDigit_of_mem_toDigits (by decide) (by decide) hc
  rw [isIdentifierPart, Char.isAlphanum, hdigit, Bool.or_true, Bool.true_or]

theorem ofInt (n : Int) : IsVisible (ofInt n) := by
  have hminus : IsVisible ['-'] := of_all (by decide)
  cases n with
  | ofNat n => exact ofNat n
  | negSucc n => exact hminus.append (ofNat (n + 1))

end IsVisible

/-! ### What is shown -/

theorem isVisible_of_take {c : Char} (h : (reading.take resumes c).1 = true) : isVisible c = true := by
  unfold Reading.take at h
  split at h
  · cases h
  · split at h
    · cases h
    · cases reading with
      | shown => exact h
      | within place =>
          dsimp only at h
          split at h
          next hblank =>
            rw [Bool.and_eq_true] at hblank
            rw [isVisible, hblank.1, Bool.true_or]
          next => cases h
      | paused place =>
          dsimp only at h
          split at h
          next => cases h
          next hvisible => simpa using hvisible

theorem visibleFrom_cons (resumes : Bool) (reading : Reading) (c : Char) (t : Text) :
    visibleFrom resumes reading (c :: t) =
      (if (reading.take resumes c).1 then [c] else []) ++ visibleFrom resumes (reading.take resumes c).2 t := by
  rw [visibleFrom]
  simp only
  split <;> rfl

theorem visibleFrom_sublist (resumes : Bool) (reading : Reading) (t : Text) :
    (visibleFrom resumes reading t).Sublist t := by
  induction t generalizing reading with
  | nil => exact List.Sublist.refl _
  | cons c t ih =>
      rw [visibleFrom_cons]
      split
      · exact (ih _).cons_cons c
      · exact (ih _).cons c

theorem isVisible_of_mem_visibleFrom {c : Char} (h : c ∈ visibleFrom resumes reading t) : isVisible c = true := by
  induction t generalizing reading with
  | nil => cases h
  | cons d t ih =>
      rw [visibleFrom_cons] at h
      rcases List.mem_append.mp h with hhead | htail
      · split at hhead
        next hshown => exact List.mem_singleton.mp hhead ▸ isVisible_of_take hshown
        next => cases hhead
      · exact ih htail

theorem streamed_sublist (t : Text) : (streamed t).Sublist t := visibleFrom_sublist true .shown t

theorem isVisible_streamed (t : Text) : IsVisible (streamed t) := fun _ => isVisible_of_mem_visibleFrom

/-! ### Texts that are shown as they are -/

theorem take_shown {c : Char} (hc : isVisible c = true) (resumes : Bool) :
    Reading.shown.take resumes c = (true, .shown) := by
  have hescape : c ≠ '\x1b' := by
    rintro rfl
    exact absurd hc (by decide)
  have hcancel : ¬(c = '\x18' ∨ c = '\x1a') := by
    rintro (rfl | rfl)
    · exact absurd hc (by decide)
    · exact absurd hc (by decide)
  rw [Reading.take, if_neg hescape, if_neg]
  · simp only [hc]
  · simpa using hcancel

/-- What is visible in front of a text is shown in front of what is shown of it. -/
theorem visibleFrom_append (hs : IsVisible s) (resumes : Bool) (t : Text) :
    visibleFrom resumes .shown (s ++ t) = s ++ visibleFrom resumes .shown t := by
  induction s with
  | nil => rfl
  | cons c s ih =>
      obtain ⟨hc, hs⟩ := List.forall_mem_cons.mp hs
      rw [List.cons_append, visibleFrom_cons, take_shown hc]
      exact congrArg (c :: ·) (ih hs)

theorem streamed_of_isVisible (ht : IsVisible t) : streamed t = t := by
  have happend := visibleFrom_append ht true []
  rw [List.append_nil] at happend
  exact happend.trans (List.append_nil t)

example : streamed "/q\x1b[1my/tests" = ("/qy/tests" : Text) := by decide

end Scaffold.Text
