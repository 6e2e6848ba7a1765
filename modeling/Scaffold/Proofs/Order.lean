import Mathlib.Logic.Relation

/-! Orders that rule out cycles. If a list has a start that holds what a step leads to and not what it comes from, for
every step of a relation, then steps lead ever further to the front, and none of their ways closes. -/

namespace Scaffold

/-- A start of the list holds the first and does not hold the second. -/
def IsAhead {α : Type} (order : List α) (first second : α) : Prop :=
  ∃ start, start <+: order ∧ first ∈ start ∧ second ∉ start

variable {α : Type} {order : List α} {first second third : α}

theorem IsAhead.trans (h : IsAhead order first second) (h' : IsAhead order second third) :
    IsAhead order first third := by
  obtain ⟨start, hstart, hfirst, hsecond⟩ := h
  obtain ⟨start', hstart', hsecond', hthird⟩ := h'
  rcases List.prefix_or_prefix_of_prefix hstart hstart' with hshorter | hlonger
  · exact ⟨start, hstart, hfirst, fun hmem => hthird (hshorter.subset hmem)⟩
  · exact absurd (hlonger.subset hsecond') hsecond

theorem isAhead_of_transGen {r : α → α → Prop} (h : ∀ a b, r a b → IsAhead order b a) {a b : α}
    (hway : Relation.TransGen r a b) : IsAhead order b a := by
  induction hway with
  | single hstep => exact h _ _ hstep
  | tail _ hstep ih => exact (h _ _ hstep).trans ih

theorem not_transGen_self (order : List α) {r : α → α → Prop} (h : ∀ a b, r a b → IsAhead order b a) (a : α) :
    ¬Relation.TransGen r a a := by
  intro hcycle
  obtain ⟨start, -, hmem, hnot⟩ := isAhead_of_transGen h hcycle
  exact hnot hmem

end Scaffold
