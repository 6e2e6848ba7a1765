import Scaffold.Proofs.Name.Identifier

/-! Pieces and lines of a text. Joined again, the pieces are the text. Cutting at a character takes an appended text
apart where the character stands between the two parts; hence lines that are written one after the other, each with
its line feed, are the lines of the text, as long as none of them holds a character that ends a line. -/

namespace Scaffold

namespace Text

/-! ### Pieces -/

theorem cut_cons_self (sep : Char) (t : Text) : cut sep (sep :: t) = [] :: cut sep t := by
  rw [cut, if_pos rfl]

theorem cut_cons_of_ne {sep c : Char} (hc : c ≠ sep) (t : Text) :
    ∃ piece pieces, cut sep t = piece :: pieces ∧ cut sep (c :: t) = (c :: piece) :: pieces := by
  have hne : cut sep t ≠ [] := by
    cases t with
    | nil => simp [cut]
    | cons d ds =>
        rw [cut]
        split
        · simp
        · split <;> simp
  cases hcut : cut sep t with
  | nil => exact absurd hcut hne
  | cons piece pieces =>
      refine ⟨piece, pieces, rfl, ?_⟩
      rw [cut, if_neg hc, hcut]

theorem cut_append_sep (sep : Char) (s t : Text) : cut sep (s ++ sep :: t) = cut sep s ++ cut sep t := by
  induction s with
  | nil => rw [List.nil_append, cut_cons_self]; rfl
  | cons c cs ih =>
      by_cases hc : c = sep
      · subst hc
        rw [List.cons_append, cut_cons_self, cut_cons_self, ih, List.cons_append]
      · obtain ⟨piece, pieces, hcs, hcut⟩ := cut_cons_of_ne hc cs
        obtain ⟨piece', pieces', hcs', hcut'⟩ := cut_cons_of_ne hc (cs ++ sep :: t)
        rw [ih, hcs, List.cons_append] at hcs'
        obtain ⟨rfl, rfl⟩ := List.cons.inj hcs'
        rw [List.cons_append, hcut', hcut, List.cons_append]

theorem cut_of_notMem {sep : Char} {t : Text} (ht : sep ∉ t) : cut sep t = [t] := by
  induction t with
  | nil => rfl
  | cons c cs ih =>
      rw [List.mem_cons, not_or] at ht
      rw [cut, if_neg (Ne.symm ht.1), ih ht.2]

theorem joinWith_cons (sep : Char) (piece : Text) {pieces : List Text} (h : pieces ≠ []) :
    joinWith sep (piece :: pieces) = piece ++ sep :: joinWith sep pieces := by
  cases pieces with
  | nil => exact absurd rfl h
  | cons next rest => rfl

theorem cut_ne_nil (sep : Char) (t : Text) : cut sep t ≠ [] := by
  cases t with
  | nil => exact List.cons_ne_nil _ _
  | cons c cs =>
      by_cases hc : c = sep
      · subst hc
        rw [cut_cons_self]
        exact List.cons_ne_nil _ _
      · obtain ⟨piece, pieces, -, hcut⟩ := cut_cons_of_ne hc cs
        rw [hcut]
        exact List.cons_ne_nil _ _

theorem joinWith_cut (sep : Char) (t : Text) : joinWith sep (cut sep t) = t := by
  induction t with
  | nil => rfl
  | cons c cs ih =>
      by_cases hc : c = sep
      · subst hc
        rw [cut_cons_self, joinWith_cons c [] (cut_ne_nil c cs), ih, List.nil_append]
      · obtain ⟨piece, pieces, hcs, hcut⟩ := cut_cons_of_ne hc cs
        rw [hcs] at ih
        rw [hcut, ← ih]
        cases pieces <;> rfl

theorem joinWith_append (sep : Char) {pieces rest : List Text} (hpieces : pieces ≠ []) (hrest : rest ≠ []) :
    joinWith sep (pieces ++ rest) = joinWith sep pieces ++ sep :: joinWith sep rest := by
  induction pieces with
  | nil => exact absurd rfl hpieces
  | cons piece pieces ih =>
      rw [List.cons_append, joinWith_cons sep piece (List.append_ne_nil_of_right_ne_nil _ hrest)]
      by_cases hlast : pieces = []
      · subst hlast
        rfl
      · rw [ih hlast, joinWith_cons sep piece hlast, List.append_assoc, List.cons_append]

theorem joinWith_concat_ne_nil (sep : Char) (pieces : List Text) {last : Text} (h : last ≠ []) :
    joinWith sep (pieces ++ [last]) ≠ [] := by
  by_cases hpieces : pieces = []
  · subst hpieces
    exact h
  · rw [joinWith_append sep hpieces (List.cons_ne_nil last [])]
    exact List.append_ne_nil_of_right_ne_nil _ (List.cons_ne_nil _ _)

theorem notMem_of_mem_cut {sep : Char} {t piece : Text} (h : piece ∈ cut sep t) : sep ∉ piece := by
  induction t generalizing piece with
  | nil =>
      rw [List.mem_singleton.mp h]
      exact List.not_mem_nil
  | cons c cs ih =>
      by_cases hc : c = sep
      · subst hc
        rw [cut_cons_self] at h
        rcases List.mem_cons.mp h with rfl | hmem
        · exact List.not_mem_nil
        · exact ih hmem
      · obtain ⟨first, rest, hcs, hcut⟩ := cut_cons_of_ne hc cs
        rw [hcut] at h
        rcases List.mem_cons.mp h with rfl | hmem
        · rw [List.mem_cons, not_or]
          exact ⟨Ne.symm hc, ih (hcs ▸ List.mem_cons_self)⟩
        · exact ih (hcs ▸ List.mem_cons_of_mem first hmem)

theorem cut_joinWith {sep : Char} {pieces : List Text} (hne : pieces ≠ []) (h : ∀ piece ∈ pieces, sep ∉ piece) :
    cut sep (joinWith sep pieces) = pieces := by
  induction pieces with
  | nil => exact absurd rfl hne
  | cons piece rest ih =>
      have hpiece := cut_of_notMem (h piece List.mem_cons_self)
      by_cases hlast : rest = []
      · subst hlast
        exact hpiece
      · rw [joinWith_cons sep piece hlast, cut_append_sep, hpiece,
          ih hlast fun other hother => h other (List.mem_cons_of_mem piece hother)]
        rfl

/-! ### Lines -/

/-- Lines in order, each with its line feed. -/
def ofLines (lines : List Text) : Text := lines.flatMap (· ++ ['\n'])

/-- Whether no character of the text ends a line. -/
def isLine (t : Text) : Bool := t.all fun c => c ≠ '\n' && c ≠ '\r'

theorem isLine_append (s t : Text) : isLine (s ++ t) = (isLine s && isLine t) := List.all_append

theorem isLine_of_isWord {t : Text} (ht : IsWord t) : isLine t = true := by
  rw [isLine, List.all_eq_true]
  intro c hc
  have hpart := ht c hc
  have hfeed : c ≠ '\n' := by
    rintro rfl
    exact absurd hpart (by decide)
  have hreturn : c ≠ '\r' := by
    rintro rfl
    exact absurd hpart (by decide)
  rw [Bool.and_eq_true, decide_eq_true hfeed, decide_eq_true hreturn]
  exact ⟨rfl, rfl⟩

theorem newline_notMem_of_isLine {t : Text} (ht : isLine t = true) : '\n' ∉ t := by
  intro hmem
  have hc := List.all_eq_true.mp ht _ hmem
  exact absurd hc (by decide)

theorem dropReturn_of_isLine {t : Text} (ht : isLine t = true) : dropReturn t = t := by
  rw [dropReturn, if_neg]
  intro hlast
  have hc := List.all_eq_true.mp ht _ (List.mem_of_getLast? hlast)
  exact absurd hc (by decide)

theorem cut_ofLines {ls : List Text} (hls : ∀ line ∈ ls, '\n' ∉ line) : cut '\n' (ofLines ls) = ls ++ [[]] := by
  induction ls with
  | nil => rfl
  | cons line rest ih =>
      have hrest := ih fun l hl => hls l (List.mem_cons_of_mem line hl)
      rw [ofLines, List.flatMap_cons, List.append_assoc, List.singleton_append]
      rw [cut_append_sep, cut_of_notMem (hls line List.mem_cons_self), List.singleton_append, List.cons_append]
      exact congrArg _ hrest

theorem lines_ofLines {ls : List Text} (hls : ∀ line ∈ ls, isLine line = true) : lines (ofLines ls) = ls := by
  have hreturn : ls.map dropReturn = ls := by
    calc ls.map dropReturn = ls.map id := List.map_congr_left fun line hline => dropReturn_of_isLine (hls line hline)
      _ = ls := List.map_id ls
  have hcut := cut_ofLines fun line hline => newline_notMem_of_isLine (hls line hline)
  rw [lines, hcut, List.dropLast_concat, List.getLast?_concat, hreturn]

end Text

end Scaffold
