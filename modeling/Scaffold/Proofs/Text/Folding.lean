import Mathlib.Data.List.Basic
import Scaffold.Proofs.Text.Ascii

/-! Folding a text twice. What a table of case mappings gives it leaves alone: no code point that comes out of
an expansion or a run is itself expanded or in a run. For two runs this is settled by their ends and by
remainders, so that a table is looked through run by run and not code point by code point. A small form
therefore has itself as its small form, and a capital form likewise; the rule for the sigma, which looks at the
text around it, only ever speaks of capital ones, and there are none in a small form. -/

namespace Scaffold

namespace Text

/-! ### Runs -/

namespace CaseRun

/-- Whether the code points that the run gives are all below a bound. -/
def endsBelow (run : CaseRun) (bound : Nat) : Bool :=
  decide (run.image + run.count * run.stride < bound + run.stride)

/-- Whether a code point is before or behind all those that the run gives. -/
def spares (run : CaseRun) (code : Nat) : Bool := decide (code < run.image) || run.endsBelow code

/-- Whether the run gives no code point that the other takes. -/
def misses (run other : CaseRun) : Bool :=
  run.endsBelow other.first
    || decide (other.first + other.count * other.stride < run.image + other.stride)
    || ((run.count == 1 || run.stride % other.stride == 0) && run.image % other.stride != other.first % other.stride)

/-- Whether the run gives characters, which no code point from D800 to DFFF is. -/
def isValid (run : CaseRun) : Bool := run.endsBelow 0xD800 || (decide (0xDFFF < run.image) && run.endsBelow 0x110000)

variable {run other : CaseRun} {code k : Nat}

theorem exists_of_offset? {offset : Nat} (h : run.offset? code = some offset) :
    ∃ k < run.count, offset = k * run.stride ∧ code = run.first + k * run.stride := by
  rw [offset?] at h
  split at h
  next hin =>
    simp only [Bool.and_eq_true, decide_eq_true_eq, beq_iff_eq] at hin
    obtain ⟨⟨hfirst, hlast⟩, hstride⟩ := hin
    obtain ⟨k, hk⟩ := Nat.dvd_of_mod_eq_zero hstride
    rw [Nat.mul_comm] at hk
    have hbound : k * run.stride < run.count * run.stride := by omega
    exact ⟨k, Nat.lt_of_mul_lt_mul_right hbound, hk ▸ (Option.some.inj h).symm, by omega⟩
  next => cases h

theorem exists_of_fold? {image : Nat} (h : run.fold? code = some image) :
    ∃ k < run.count, image = run.image + k * run.stride := by
  obtain ⟨offset, hoffset, rfl⟩ := Option.map_eq_some_iff.mp h
  obtain ⟨k, hk, rfl, -⟩ := exists_of_offset? hoffset
  exact ⟨k, hk, rfl⟩

theorem mul_stride_add_le (hk : k < run.count) : k * run.stride + run.stride ≤ run.count * run.stride := by
  rw [← Nat.succ_mul]
  exact Nat.mul_le_mul_right _ hk

theorem lt_of_endsBelow {bound : Nat} (h : run.endsBelow bound = true) (hk : k < run.count) :
    run.image + k * run.stride < bound := by
  have hlast := mul_stride_add_le hk
  have hbound := of_decide_eq_true h
  omega

theorem ne_of_spares (h : run.spares code = true) (hk : k < run.count) : run.image + k * run.stride ≠ code := by
  rw [spares, Bool.or_eq_true, decide_eq_true_eq] at h
  rcases h with hbefore | hbehind
  · omega
  · exact Nat.ne_of_lt (lt_of_endsBelow hbehind hk)

theorem offset?_of_misses (h : run.misses other = true) (hk : k < run.count) :
    other.offset? (run.image + k * run.stride) = none := by
  rw [Option.eq_none_iff_forall_ne_some]
  intro offset hoffset
  obtain ⟨j, hj, -, heq⟩ := exists_of_offset? hoffset
  have htaken := mul_stride_add_le hj
  simp only [misses, Bool.or_eq_true, Bool.and_eq_true, decide_eq_true_eq, beq_iff_eq, bne_iff_ne] at h
  rcases h with (hbefore | hbehind) | ⟨hone | hdistance, hremainder⟩
  · have hgiven := lt_of_endsBelow hbefore hk
    omega
  · omega
  · obtain rfl : k = 0 := by omega
    rw [Nat.zero_mul, Nat.add_zero] at heq
    exact hremainder (by rw [heq, Nat.add_mul_mod_self_right])
  · obtain ⟨ratio, hratio⟩ := Nat.dvd_of_mod_eq_zero hdistance
    refine hremainder ?_
    calc run.image % other.stride = (run.image + k * ratio * other.stride) % other.stride :=
          (Nat.add_mul_mod_self_right ..).symm
      _ = (run.image + k * run.stride) % other.stride := by rw [hratio, Nat.mul_assoc, Nat.mul_comm ratio]
      _ = other.first % other.stride := by rw [heq, Nat.add_mul_mod_self_right]

theorem isValidChar_of_isValid (h : run.isValid = true) (hk : k < run.count) :
    (run.image + k * run.stride).isValidChar := by
  rw [isValid, Bool.or_eq_true, Bool.and_eq_true, decide_eq_true_eq] at h
  rcases h with hlow | ⟨hfirst, hhigh⟩
  · exact Or.inl (lt_of_endsBelow hlow hk)
  · exact Or.inr ⟨by omega, lt_of_endsBelow hhigh hk⟩

end CaseRun

/-! ### Tables -/

/-- Whether a table neither expands a code point nor has it in a run. -/
def leavesAlone (expansions : List (Nat × List Nat)) (runs : List CaseRun) (code : Nat) : Bool :=
  expansions.all (fun entry => entry.1 != code) && runs.all fun run => (run.offset? code).isNone

/-- A table whose expansions and runs give nothing but characters that it leaves alone. -/
structure IsSettled (expansions : List (Nat × List Nat)) (runs : List CaseRun) : Prop where
  expanded : (expansions.all fun entry => entry.2.all fun code =>
    decide code.isValidChar && leavesAlone expansions runs code) = true
  valid : (runs.all fun run => run.isValid) = true
  spared : (runs.all fun run => expansions.all fun entry => run.spares entry.1) = true
  missed : (runs.all fun run => runs.all fun other => run.misses other) = true

variable {expansions : List (Nat × List Nat)} {runs : List CaseRun} {code image : Nat}

theorem leavesAlone_iff : leavesAlone expansions runs code = true ↔
    expansions.lookup code = none ∧ ∀ run ∈ runs, run.offset? code = none := by
  rw [leavesAlone, Bool.and_eq_true, List.all_eq_true, List.all_eq_true, List.lookup_eq_none_iff]
  refine and_congr (forall₂_congr fun entry _ => ?_) (forall₂_congr fun run _ => Option.isNone_iff_eq_none)
  rw [bne_iff_ne, bne_iff_ne]
  exact ne_comm

theorem foldCode_of_leavesAlone (h : leavesAlone expansions runs code = true) :
    foldCode expansions runs code = [code] := by
  obtain ⟨hlookup, hruns⟩ := leavesAlone_iff.mp h
  have hfind : runs.findSome? (·.fold? code) = none := by
    rw [List.findSome?_eq_none_iff]
    intro run hrun
    rw [CaseRun.fold?, hruns run hrun, Option.map_none]
  rw [foldCode, hlookup, hfind, Option.getD_none]

/-- A code point comes out of an expansion or of a run, or it is left alone. -/
theorem mem_foldCode_cases (h : image ∈ foldCode expansions runs code) :
    (∃ entry ∈ expansions, image ∈ entry.2) ∨
    (∃ run ∈ runs, ∃ k < run.count, image = run.image + k * run.stride) ∨
    (image = code ∧ leavesAlone expansions runs code = true) := by
  rw [foldCode] at h
  cases hlookup : expansions.lookup code with
  | some codes =>
      rw [hlookup] at h
      obtain ⟨before, after, rfl, -⟩ := List.lookup_eq_some_iff.mp hlookup
      exact Or.inl ⟨_, List.mem_append_right _ List.mem_cons_self, h⟩
  | none =>
      rw [hlookup] at h
      obtain rfl := List.mem_singleton.mp h
      cases hfind : runs.findSome? (·.fold? code) with
      | some found =>
          obtain ⟨run, hrun, hfold⟩ := List.exists_of_findSome?_eq_some hfind
          exact Or.inr (Or.inl ⟨run, hrun, CaseRun.exists_of_fold? hfold⟩)
      | none =>
          refine Or.inr (Or.inr ⟨rfl, leavesAlone_iff.mpr ⟨hlookup, fun run hrun => ?_⟩⟩)
          exact Option.map_eq_none_iff.mp (List.findSome?_eq_none_iff.mp hfind run hrun)

theorem IsSettled.leavesAlone_of_mem (htable : IsSettled expansions runs) (hcode : code.isValidChar)
    (h : image ∈ foldCode expansions runs code) :
    image.isValidChar ∧ leavesAlone expansions runs image = true := by
  rcases mem_foldCode_cases h with ⟨entry, hentry, hmem⟩ | ⟨run, hrun, k, hk, rfl⟩ | ⟨rfl, halone⟩
  · have hgiven := List.all_eq_true.mp (List.all_eq_true.mp htable.expanded entry hentry) image hmem
    rw [Bool.and_eq_true, decide_eq_true_eq] at hgiven
    exact hgiven
  · refine ⟨CaseRun.isValidChar_of_isValid (List.all_eq_true.mp htable.valid run hrun) hk, leavesAlone_iff.mpr ⟨?_, ?_⟩⟩
    · rw [List.lookup_eq_none_iff]
      intro entry hentry
      have hspared := List.all_eq_true.mp (List.all_eq_true.mp htable.spared run hrun) entry hentry
      exact bne_iff_ne.mpr (CaseRun.ne_of_spares hspared hk)
    · intro other hother
      exact CaseRun.offset?_of_misses (List.all_eq_true.mp (List.all_eq_true.mp htable.missed run hrun) other hother) hk
  · exact ⟨hcode, halone⟩

theorem isSettled_lower : IsSettled lowerExpansions lowerRuns :=
  ⟨by decide +kernel, by decide +kernel, by decide +kernel, by decide +kernel⟩

theorem isSettled_upper : IsSettled upperExpansions upperRuns :=
  ⟨by decide +kernel, by decide +kernel, by decide +kernel, by decide +kernel⟩

/-! ### Characters -/

/-- The form of a character by a table. -/
def foldChar (expansions : List (Nat × List Nat)) (runs : List CaseRun) (c : Char) : Text :=
  (foldCode expansions runs c.toNat).map Char.ofNat

theorem IsSettled.foldChar_of_mem (htable : IsSettled expansions runs) {c d : Char}
    (h : d ∈ foldChar expansions runs c) : foldChar expansions runs d = [d] := by
  obtain ⟨image, hmem, rfl⟩ := List.mem_map.mp h
  obtain ⟨hvalid, halone⟩ := htable.leavesAlone_of_mem c.valid hmem
  have htoNat : (Char.ofNat image).toNat = image := by
    rw [Char.ofNat, dif_pos hvalid]
    rfl
  rw [foldChar, htoNat, foldCode_of_leavesAlone halone]
  rfl

theorem lowerChar_of_mem {c d : Char} (h : d ∈ lowerChar c) : lowerChar d = [d] := isSettled_lower.foldChar_of_mem h

theorem upperChar_of_mem {c d : Char} (h : d ∈ upperChar c) : upperChar d = [d] := isSettled_upper.foldChar_of_mem h

theorem lowerChar_capitalSigma : lowerChar capitalSigma = ['σ'] := by decide +kernel

theorem lowerChar_smallSigma (before after : Text) :
    lowerChar (smallSigma before after) = [smallSigma before after] := by
  rw [smallSigma]
  split
  · decide +kernel
  · decide +kernel

/-! ### Texts -/

theorem lowerChar_of_mem_lowerAfter (before : Text) {t : Text} {d : Char} (h : d ∈ lowerAfter before t) :
    lowerChar d = [d] := by
  induction t generalizing before with
  | nil => exact absurd h List.not_mem_nil
  | cons c cs ih =>
      rw [lowerAfter] at h
      rcases List.mem_append.mp h with hhead | htail
      · split at hhead
        · obtain rfl := List.mem_singleton.mp hhead
          exact lowerChar_smallSigma before cs
        · exact lowerChar_of_mem hhead
      · exact ih _ htail

/-- A text of characters that are their own small forms is its own small form. -/
theorem lower_of_lowerChar {t : Text} (ht : ∀ c ∈ t, lowerChar c = [c]) : lower t = t := by
  have hsigma : capitalSigma ∉ t := by
    intro hmem
    have hsmall := lowerChar_capitalSigma.symm.trans (ht _ hmem)
    exact absurd (List.cons.inj hsmall).1 (by decide)
  rw [lower_of_notMem hsigma]
  calc t.flatMap lowerChar = t.flatMap fun c => [c] := List.flatMap_congr ht
    _ = t := List.flatMap_singleton' t

theorem lower_lower (t : Text) : lower (lower t) = lower t :=
  lower_of_lowerChar fun _ hc => lowerChar_of_mem_lowerAfter [] hc

theorem upper_upper (t : Text) : upper (upper t) = upper t := by
  have hcapital : ∀ d ∈ upper t, upperChar d = [d] := by
    intro d hd
    obtain ⟨c, -, hmem⟩ := List.mem_flatMap.mp hd
    exact upperChar_of_mem hmem
  calc upper (upper t) = (upper t).flatMap fun c => [c] := List.flatMap_congr hcapital
    _ = upper t := List.flatMap_singleton' _

end Text

end Scaffold
