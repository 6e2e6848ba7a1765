import Scaffold.Text.Case

/-! Folding character by character. The capital form is always made so, and the small form where no capital sigma is.
Below 128 there is none, and of the tables nothing but the first run reaches so far. -/

namespace Scaffold

/-- What holds of the first 128 characters holds of every character below 128. -/
theorem of_ascii {p : Char → Prop} (h : ∀ n : Fin 128, p (Char.ofNat n)) {c : Char} (hc : c.toNat < 128) :
    p c := by
  have hp := h ⟨c.toNat, hc⟩
  rwa [Char.ofNat_toNat] at hp

namespace Text

/-! ### Any characters -/

theorem upper_append (s t : Text) : upper (s ++ t) = upper s ++ upper t := List.flatMap_append

theorem lowerAfter_of_notMem (before : Text) {t : Text} (ht : capitalSigma ∉ t) :
    lowerAfter before t = t.flatMap lowerChar := by
  induction t generalizing before with
  | nil => rfl
  | cons c cs ih =>
      rw [List.mem_cons, not_or] at ht
      rw [lowerAfter, if_neg (Ne.symm ht.1), ih _ ht.2, List.flatMap_cons]

/-- Where no sigma needs the text around it, the small form too is made character by character. -/
theorem lower_of_notMem {t : Text} (ht : capitalSigma ∉ t) : lower t = t.flatMap lowerChar :=
  lowerAfter_of_notMem [] ht

theorem lower_append {s t : Text} (hs : capitalSigma ∉ s) (ht : capitalSigma ∉ t) :
    lower (s ++ t) = lower s ++ lower t := by
  have hst : capitalSigma ∉ s ++ t := by
    rw [List.mem_append, not_or]
    exact ⟨hs, ht⟩
  rw [lower_of_notMem hst, lower_of_notMem hs, lower_of_notMem ht, List.flatMap_append]

/-- A sigma that ends the first of two texts is final there, and is not if a letter follows. -/
example : lower "ΑΣ" ++ lower "Α" = "αςα" ∧ lower ("ΑΣ" ++ "Α") = "ασα" := by decide +kernel

/-! ### Characters below 128 -/

/-- A text without characters from 128 on. -/
def IsAscii (t : Text) : Prop := ∀ c ∈ t, c.toNat < 128

/-- Below 128 nothing but the first run of a table counts, if all else in it lies above. -/
theorem foldCode_of_lt {expansions : List (Nat × List Nat)} {run : CaseRun} {runs : List CaseRun}
    (hexpansions : ∀ entry ∈ expansions, 128 ≤ entry.1) (hruns : ∀ r ∈ runs, 128 ≤ r.first) {code : Nat}
    (hcode : code < 128) : foldCode expansions (run :: runs) code = [(run.fold? code).getD code] := by
  have hlookup : expansions.lookup code = none := by
    rw [List.lookup_eq_none_iff]
    intro entry hentry
    have hle := hexpansions entry hentry
    simp only [bne_iff_ne, ne_eq]
    omega
  have hrest : runs.findSome? (·.fold? code) = none := by
    rw [List.findSome?_eq_none_iff]
    intro r hr
    have hle := hruns r hr
    have hoffset : ¬r.first ≤ code := by omega
    simp [CaseRun.fold?, CaseRun.offset?, hoffset]
  rw [foldCode, hlookup, List.findSome?_cons, hrest]
  cases run.fold? code <;> rfl

theorem lowerChar_of_lt {c : Char} (hc : c.toNat < 128) : lowerChar c = [c.toLower] := by
  rw [lowerChar, lowerRuns, foldCode_of_lt (by decide +kernel) (by decide +kernel) hc]
  exact of_ascii (p := fun c => [Char.ofNat (((⟨0x41, 26, 1, 0x61⟩ : CaseRun).fold? c.toNat).getD c.toNat)] =
    [c.toLower]) (by decide +kernel) hc

theorem upperChar_of_lt {c : Char} (hc : c.toNat < 128) : upperChar c = [c.toUpper] := by
  rw [upperChar, upperRuns, foldCode_of_lt (by decide +kernel) (by decide +kernel) hc]
  exact of_ascii (p := fun c => [Char.ofNat (((⟨0x61, 26, 1, 0x41⟩ : CaseRun).fold? c.toNat).getD c.toNat)] =
    [c.toUpper]) (by decide +kernel) hc

theorem lower_of_isAscii {t : Text} (ht : IsAscii t) : lower t = t.map Char.toLower := by
  have hsigma : capitalSigma ∉ t := fun hmem => absurd (ht _ hmem) (by decide)
  have hchars : t.map lowerChar = t.map fun c => [c.toLower] :=
    List.map_congr_left fun c hc => lowerChar_of_lt (ht c hc)
  rw [lower_of_notMem hsigma, List.map_eq_flatMap, List.flatMap_def, List.flatMap_def, hchars]

theorem upper_of_isAscii {t : Text} (ht : IsAscii t) : upper t = t.map Char.toUpper := by
  have hchars : t.map upperChar = t.map fun c => [c.toUpper] :=
    List.map_congr_left fun c hc => upperChar_of_lt (ht c hc)
  rw [upper, List.map_eq_flatMap, List.flatMap_def, List.flatMap_def, hchars]

end Text

end Scaffold
