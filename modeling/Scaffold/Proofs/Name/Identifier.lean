import Scaffold.Name
import Scaffold.Proofs.Text.Ascii

/-! Identifiers and their folds. An identifier is made of characters below 128, which fold to characters of
identifiers again. Each of the two folds of a name determines the other, so that two names have the same
small form exactly if they have the same capital form. -/

namespace Scaffold

theorem toNat_lt_of_isIdentifierPart {c : Char} (hc : isIdentifierPart c = true) : c.toNat < 128 := by
  have hranges : (((decide (65 ≤ c.val ∧ c.val ≤ 90) || decide (97 ≤ c.val) && decide (c.val ≤ 122)) ||
      decide (48 ≤ c.val) && decide (c.val ≤ 57)) || c == '_') = true := hc
  simp only [Bool.or_eq_true, Bool.and_eq_true, decide_eq_true_eq, beq_iff_eq, UInt32.le_iff_toNat_le] at hranges
  change ((65 ≤ c.toNat ∧ c.toNat ≤ 90 ∨ 97 ≤ c.toNat ∧ c.toNat ≤ 122) ∨
    48 ≤ c.toNat ∧ c.toNat ≤ 57) ∨ c = '_' at hranges
  rcases hranges with hrange | rfl
  · omega
  · decide

theorem isIdentifierPart_of_isIdentifierStart {c : Char} (hc : isIdentifierStart c = true) :
    isIdentifierPart c = true := by
  simp only [isIdentifierStart, isIdentifierPart, Char.isAlphanum, Bool.or_eq_true] at hc ⊢
  exact hc.imp_left Or.inl

theorem isIdentifierPart_toLower {c : Char} (hc : isIdentifierPart c = true) :
    isIdentifierPart c.toLower = true :=
  of_ascii (p := fun c => isIdentifierPart c = true → isIdentifierPart c.toLower = true)
    (by decide +kernel) (toNat_lt_of_isIdentifierPart hc) hc

theorem isIdentifierPart_toUpper {c : Char} (hc : isIdentifierPart c = true) :
    isIdentifierPart c.toUpper = true :=
  of_ascii (p := fun c => isIdentifierPart c = true → isIdentifierPart c.toUpper = true)
    (by decide +kernel) (toNat_lt_of_isIdentifierPart hc) hc

/-! ### Texts of identifier characters -/

/-- A text of characters an identifier may go on with. -/
def IsWord (t : Text) : Prop := ∀ c ∈ t, isIdentifierPart c = true

namespace IsWord

theorem of_all {t : Text} (ht : t.all isIdentifierPart = true) : IsWord t := List.all_eq_true.mp ht

theorem nil : IsWord [] := fun _ hc => absurd hc List.not_mem_nil

theorem append {s t : Text} (hs : IsWord s) (ht : IsWord t) : IsWord (s ++ t) := by
  intro c hc
  rcases List.mem_append.mp hc with h | h
  · exact hs c h
  · exact ht c h

theorem isAscii {t : Text} (ht : IsWord t) : Text.IsAscii t :=
  fun c hc => toNat_lt_of_isIdentifierPart (ht c hc)

theorem notMem {t : Text} (ht : IsWord t) {c : Char} (hc : isIdentifierPart c = false) : c ∉ t := by
  intro hmem
  rw [ht c hmem] at hc
  exact Bool.noConfusion hc

theorem lower {t : Text} (ht : IsWord t) : IsWord (Text.lower t) := by
  rw [Text.lower_of_isAscii ht.isAscii]
  intro c hc
  obtain ⟨d, hd, rfl⟩ := List.mem_map.mp hc
  exact isIdentifierPart_toLower (ht d hd)

theorem upper {t : Text} (ht : IsWord t) : IsWord (Text.upper t) := by
  rw [Text.upper_of_isAscii ht.isAscii]
  intro c hc
  obtain ⟨d, hd, rfl⟩ := List.mem_map.mp hc
  exact isIdentifierPart_toUpper (ht d hd)

/-- The small form of a word says what its capital form is. -/
theorem upper_lower {t : Text} (ht : IsWord t) : Text.upper (Text.lower t) = Text.upper t := by
  rw [Text.upper_of_isAscii ht.lower.isAscii, Text.lower_of_isAscii ht.isAscii,
    Text.upper_of_isAscii ht.isAscii, List.map_map]
  refine List.map_congr_left fun c hc => ?_
  exact of_ascii (p := fun c => c.toLower.toUpper = c.toUpper) (by decide +kernel)
    (toNat_lt_of_isIdentifierPart (ht c hc))

/-- The capital form of a word says what its small form is. -/
theorem lower_upper {t : Text} (ht : IsWord t) : Text.lower (Text.upper t) = Text.lower t := by
  rw [Text.lower_of_isAscii ht.upper.isAscii, Text.upper_of_isAscii ht.isAscii,
    Text.lower_of_isAscii ht.isAscii, List.map_map]
  refine List.map_congr_left fun c hc => ?_
  exact of_ascii (p := fun c => c.toUpper.toLower = c.toLower) (by decide +kernel)
    (toNat_lt_of_isIdentifierPart (ht c hc))

theorem lower_append {s t : Text} (hs : IsWord s) (ht : IsWord t) :
    Text.lower (s ++ t) = Text.lower s ++ Text.lower t :=
  Text.lower_append (hs.notMem (by decide)) (ht.notMem (by decide))

end IsWord

theorem isWord_of_isIdentifier {name : Text} (h : isIdentifier name = true) : IsWord name := by
  cases name with
  | nil => exact IsWord.nil
  | cons c cs =>
      simp only [isIdentifier, Bool.and_eq_true, List.all_eq_true] at h
      intro d hd
      rcases List.mem_cons.mp hd with rfl | hd
      · exact isIdentifierPart_of_isIdentifierStart h.1
      · exact h.2 d hd

theorem isIdentifier_append {name t : Text} (hname : isIdentifier name = true) (ht : IsWord t) :
    isIdentifier (name ++ t) = true := by
  cases name with
  | nil => exact absurd hname (by decide)
  | cons c cs =>
      simp only [isIdentifier, List.cons_append, List.all_append, Bool.and_eq_true] at hname ⊢
      exact ⟨hname.1, hname.2, List.all_eq_true.mpr ht⟩

theorem ne_nil_of_isIdentifier {name : Text} (h : isIdentifier name = true) : name ≠ [] := by
  rintro rfl
  exact absurd h (by decide)

end Scaffold
