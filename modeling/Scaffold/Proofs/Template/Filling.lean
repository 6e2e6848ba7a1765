import Scaffold.Proofs.Text.Ascii
import Scaffold.Template

/-! Rendering commutes with filling in. Let every character of the values in one context stand for a text
of its own, the value of another context being the value of the first with these texts in place. Then a
template renders in the second context to what it renders to in the first with these texts in place,
provided that the characters of the template itself stand for themselves: a value is put where its name
stands, as it is, and is not read again. -/

namespace Scaffold

/-- Characters that stand for themselves are left where they are. -/
theorem Text.flatMap_of_isAscii {f : Char → Text} (hf : ∀ c : Char, c.toNat < 128 → f c = [c]) {t : Text}
    (ht : IsAscii t) : t.flatMap f = t := by
  induction t with
  | nil => rfl
  | cons c cs ih =>
      rw [List.flatMap_cons, hf c (ht c List.mem_cons_self), ih fun d hd => ht d (List.mem_cons_of_mem c hd)]
      rfl

/-- A context, another with the same values up to filling in, and the references that are known to have
values in both. -/
structure Filling where
  fill : Char → Text
  before : Value
  after : Value
  /-- References whose values are printed. -/
  shown : List Reference
  /-- References whose values decide between branches. -/
  tested : List Reference
  fill_of_lt : ∀ c : Char, c.toNat < 128 → fill c = [c]
  shown_filled : ∀ what ∈ shown, ∃ t, what.value? before = some (.text t) ∧
    (what.value? after).map Value.alone = some (t.flatMap fill)
  tested_kept : ∀ what ∈ tested, ∃ v, what.value? before = some v ∧ what.value? after = some v

/-- Whether a piece is plain text or shows one of the references. -/
def Piece.isCovered (shown : List Reference) : Piece → Bool
  | .text t => t.all fun c => decide (c.toNat < 128)
  | .hole what _ => shown.contains what

/-- Whether what a block shows in a context is covered, whichever branch it takes there. -/
def Block.isCovered (context : Value) (shown tested : List Reference) : Block → Bool
  | .piece single => single.isCovered shown
  | .choice subject word _ same other =>
    tested.contains subject &&
      (if (subject.value? context).any (·.isWord word) then same else other).all (·.isCovered shown)

namespace Filling

variable (F : Filling)

theorem render_piece {piece : Piece} (hpiece : piece.isCovered F.shown = true) :
    ∃ t, piece.render F.before = .ok t ∧ piece.render F.after = .ok (t.flatMap F.fill) := by
  cases piece with
  | text t =>
      simp only [Piece.isCovered, List.all_eq_true, decide_eq_true_eq] at hpiece
      exact ⟨t, rfl, by rw [Text.flatMap_of_isAscii F.fill_of_lt hpiece]; rfl⟩
  | hole what line =>
      have hmem : what ∈ F.shown := by simpa [Piece.isCovered] using hpiece
      obtain ⟨t, hbefore, hafter⟩ := F.shown_filled what hmem
      obtain ⟨v, hv, hshown⟩ := Option.map_eq_some_iff.mp hafter
      exact ⟨t, by rw [Piece.render, hbefore]; rfl, by rw [Piece.render, hv, ← hshown]⟩

theorem renderAll_pieces {pieces : List Piece} (hpieces : ∀ piece ∈ pieces, piece.isCovered F.shown = true) :
    ∃ t, Piece.renderAll F.before pieces = .ok t ∧
      Piece.renderAll F.after pieces = .ok (t.flatMap F.fill) := by
  induction pieces with
  | nil => exact ⟨[], rfl, rfl⟩
  | cons piece rest ih =>
      obtain ⟨t, hbefore, hafter⟩ := F.render_piece (hpieces piece List.mem_cons_self)
      obtain ⟨u, hbefore', hafter'⟩ := ih fun p hp => hpieces p (List.mem_cons_of_mem piece hp)
      refine ⟨t ++ u, ?_, ?_⟩
      · rw [Piece.renderAll, hbefore, hbefore']
        rfl
      · rw [Piece.renderAll, hafter, hafter', List.flatMap_append]
        rfl

theorem render_block {block : Block} (hblock : block.isCovered F.before F.shown F.tested = true) :
    ∃ t, block.render F.before = .ok t ∧ block.render F.after = .ok (t.flatMap F.fill) := by
  cases block with
  | piece single => exact F.render_piece hblock
  | choice subject word line same other =>
      simp only [Block.isCovered, Bool.and_eq_true, List.contains_iff_mem, List.all_eq_true] at hblock
      obtain ⟨hsubject, hpieces⟩ := hblock
      obtain ⟨v, hbefore, hafter⟩ := F.tested_kept subject hsubject
      rw [hbefore] at hpieces
      simp only [Block.render, hbefore, hafter]
      exact F.renderAll_pieces hpieces

/-- A covered template renders in both contexts, and filling in leads from one text to the other. -/
theorem render_template {template : Template}
    (htemplate : ∀ block ∈ template, block.isCovered F.before F.shown F.tested = true) :
    ∃ t, template.render F.before = .ok t ∧ template.render F.after = .ok (t.flatMap F.fill) := by
  induction template with
  | nil => exact ⟨[], rfl, rfl⟩
  | cons block rest ih =>
      obtain ⟨t, hbefore, hafter⟩ := F.render_block (htemplate block List.mem_cons_self)
      obtain ⟨u, hbefore', hafter'⟩ := ih fun b hb => htemplate b (List.mem_cons_of_mem block hb)
      refine ⟨t ++ u, ?_, ?_⟩
      · rw [Template.render, hbefore, hbefore']
        rfl
      · rw [Template.render, hafter, hafter', List.flatMap_append]
        rfl

end Filling

end Scaffold
