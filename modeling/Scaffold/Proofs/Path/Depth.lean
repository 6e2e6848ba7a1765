import Mathlib.Data.List.DropRight
import Scaffold.Proofs.Path.Parent

/-! How deep paths are. The pieces of a path between slashes count, but for empty ones and dots behind the first
piece. The parent of a path has all its components but the last; so a path has a parent as long as there is a
component other than the leading slash. What is joined to a path sees only its components. -/

namespace Scaffold

namespace Path

variable {path base base' : Text} {pieces more : List Text}

/-- The number of pieces that count: a dot in front does, the leading slash does not. -/
def depth (path : Text) : Nat :=
  match Text.cut '/' path with
  | [] => 0
  | first :: rest => (if first = [] then 0 else 1) + rest.countP fun piece => !isVoid piece

/-! ### Pieces and components -/

theorem depth_of_cut {first : Text} {rest : List Text} (h : Text.cut '/' path = first :: rest) :
    depth path = (if first = [] then 0 else 1) + rest.countP fun piece => !isVoid piece := by
  simp only [depth, h]

theorem components_of_anchored (path : Text) : components path = Component.ofAnchor (anchored path).1 ++
    ((Text.cut '/' (anchored path).2).filter fun piece => !isVoid piece).map Component.ofPiece := rfl

theorem anchored_cases (path : Text) :
    (anchored path).1 = [] ∨ (anchored path).1 = ['/'] ∨ (anchored path).1 = ['.'] := by
  unfold anchored
  split
  · exact Or.inr (Or.inl rfl)
  · exact Or.inr (Or.inr rfl)
  · exact Or.inr (Or.inr rfl)
  · exact Or.inl rfl

theorem components_anchor (path : Text) : components (anchored path).1 = Component.ofAnchor (anchored path).1 := by
  rcases anchored_cases path with h | h | h <;> rw [h] <;> rfl

theorem ofPiece_ne_root (piece : Text) : Component.ofPiece piece ≠ .root := by
  unfold Component.ofPiece
  split <;> simp

theorem countP_ofPiece (pieces : List Text) :
    (pieces.map Component.ofPiece).countP (· ≠ .root) = pieces.length := by
  rw [List.countP_map, List.countP_eq_length]
  intro piece _
  simpa using ofPiece_ne_root piece

/-- The first piece is a dot: the dot is all of the path, or a slash follows it. -/
theorem anchored_dot {body : Text} {rest : List Text} (h : Text.cut '/' body = [] :: rest) :
    anchored ('.' :: body) = (['.'], body) := by
  cases body with
  | nil => rfl
  | cons d ds =>
      by_cases hd : d = '/'
      · subst hd
        rfl
      · obtain ⟨piece, pieces, -, hcut⟩ := Text.cut_cons_of_ne hd ds
        rw [h] at hcut
        cases hcut

theorem anchored_of_ne {c : Char} {body piece : Text} {rest : List Text} (hslash : c ≠ '/')
    (h : Text.cut '/' body = piece :: rest) (hdot : c :: piece ≠ ['.']) :
    anchored (c :: body) = ([], c :: body) := by
  unfold anchored
  split
  next heq => exact absurd (List.cons.inj heq).1 hslash
  next heq =>
    obtain ⟨rfl, rfl⟩ := List.cons.inj heq
    cases h
    exact absurd rfl hdot
  next heq =>
    obtain ⟨rfl, rfl⟩ := List.cons.inj heq
    rw [Text.cut_cons_self] at h
    cases h
    exact absurd rfl hdot
  next => rfl

/-- The pieces that count are the components other than the leading slash. -/
theorem depth_eq (path : Text) : depth path = (components path).countP (· ≠ .root) := by
  have hbehind : ∀ rest : List Text, rest.countP (fun piece => !isVoid piece) =
      ((rest.filter fun piece => !isVoid piece).map Component.ofPiece).countP (· ≠ .root) := by
    intro rest
    rw [countP_ofPiece, List.countP_eq_length_filter]
  cases path with
  | nil => rfl
  | cons c cs =>
      by_cases hslash : c = '/'
      · subst hslash
        rw [depth_of_cut (Text.cut_cons_self '/' cs), hbehind, components]
        simp [anchored, Component.ofAnchor]
      · obtain ⟨piece, rest, hcs, hcut⟩ := Text.cut_cons_of_ne hslash cs
        rw [depth_of_cut hcut, hbehind, components_of_anchored]
        by_cases hdot : c :: piece = ['.']
        · obtain ⟨rfl, rfl⟩ := List.cons.inj hdot
          simp [anchored_dot hcs, hcs, isVoid, Component.ofAnchor, Nat.add_comm]
        · have hvoid : isVoid (c :: piece) = false := by
            rw [isVoid, beq_false_of_ne (List.cons_ne_nil c piece), beq_false_of_ne hdot]
            rfl
          simp [anchored_of_ne hslash hcs hdot, hcut, hvoid, Component.ofAnchor, ofPiece_ne_root, Nat.add_comm]

theorem eq_nil_of_components_eq_nil (h : components path = []) : path = [] := by
  cases path with
  | nil => rfl
  | cons c cs =>
      exfalso
      by_cases hslash : c = '/'
      · subst hslash
        simp [components, anchored, Component.ofAnchor] at h
      · obtain ⟨piece, rest, -, hcut⟩ := Text.cut_cons_of_ne hslash cs
        have hdepth := depth_eq (c :: cs)
        rw [depth_of_cut hcut, h, if_neg (List.cons_ne_nil c piece), List.countP_nil] at hdepth
        omega

/-! ### Parents -/

theorem trimEnd_append_voids (pieces : List Text) :
    ∃ voids, pieces = trimEnd pieces ++ voids ∧ ∀ piece ∈ voids, isVoid piece = true :=
  ⟨pieces.rtakeWhile isVoid, (List.rdropWhile_append_rtakeWhile ..).symm, fun _ => List.mem_rtakeWhile_imp⟩

theorem filter_trimEnd (pieces : List Text) :
    (trimEnd pieces).filter (fun piece => !isVoid piece) = pieces.filter fun piece => !isVoid piece := by
  obtain ⟨voids, hpieces, hvoids⟩ := trimEnd_append_voids pieces
  have hnone : voids.filter (fun piece => !isVoid piece) = [] := by simpa using hvoids
  calc (trimEnd pieces).filter (fun piece => !isVoid piece)
      = (trimEnd pieces ++ voids).filter fun piece => !isVoid piece := by
        rw [List.filter_append, hnone, List.append_nil]
    _ = pieces.filter fun piece => !isVoid piece := by rw [← hpieces]

theorem isVoid_of_trimEnd {last : Text} (h : trimEnd pieces = more ++ [last]) : isVoid last = false := by
  have hne : List.rdropWhile isVoid pieces ≠ [] := by
    change trimEnd pieces ≠ []
    simp [h]
  have hlast := List.rdropWhile_last_not isVoid pieces hne
  change ¬isVoid ((trimEnd pieces).getLast hne) = true at hlast
  simpa [h] using hlast

/-- A beginning that a slash follows has the anchor of the whole path. -/
theorem anchored_beginning {front rest : Text} (h : (anchored path).2 = front ++ '/' :: rest)
    (hfront : (anchored path).1 ++ front ≠ []) :
    anchored ((anchored path).1 ++ front) = ((anchored path).1, front) := by
  have hwhole := anchored_append_slash hfront rest
  rw [List.append_assoc, ← h, anchored_append] at hwhole
  have hanchor := congrArg Prod.fst hwhole
  have hbody := anchored_append ((anchored path).1 ++ front)
  rw [← hanchor] at hbody
  exact Prod.ext hanchor.symm (List.append_cancel_left hbody)

/-- A path that ends early has the components of the pieces up to there. -/
theorem components_anchored_joinWith (h : Text.cut '/' (anchored path).2 = pieces ++ more) (hmore : more ≠ []) :
    components ((anchored path).1 ++ Text.joinWith '/' (trimEnd pieces)) =
      Component.ofAnchor (anchored path).1 ++
        (pieces.filter fun piece => !isVoid piece).map Component.ofPiece := by
  obtain ⟨voids, hpieces, -⟩ := trimEnd_append_voids pieces
  rw [← filter_trimEnd pieces]
  generalize hkept : trimEnd pieces = kept at hpieces
  rcases kept.eq_nil_or_concat with rfl | ⟨kept, last, rfl⟩
  · rw [List.filter_nil, List.map_nil, List.append_nil, Text.joinWith, List.append_nil, components_anchor]
  · rw [List.concat_eq_append] at hkept hpieces ⊢
    have hne : kept ++ [last] ≠ [] := by simp
    have hlast : last ≠ [] := by
      rintro rfl
      exact absurd (isVoid_of_trimEnd hkept) (by decide)
    have hrest : voids ++ more ≠ [] := List.append_ne_nil_of_right_ne_nil _ hmore
    have hslash : ∀ piece ∈ kept ++ [last], '/' ∉ piece := by
      intro piece hmem
      apply Text.notMem_of_mem_cut (t := (anchored path).2)
      rw [h, hpieces, List.append_assoc]
      exact List.mem_append_left _ hmem
    have hbody : (anchored path).2 =
        Text.joinWith '/' (kept ++ [last]) ++ '/' :: Text.joinWith '/' (voids ++ more) := by
      rw [← Text.joinWith_append '/' hne hrest, ← List.append_assoc, ← hpieces, ← h, Text.joinWith_cut]
    have hfront := List.append_ne_nil_of_right_ne_nil (anchored path).1
      (Text.joinWith_concat_ne_nil '/' kept hlast)
    rw [components_of_anchored, anchored_beginning hbody hfront, Text.cut_joinWith hne hslash]

/-- A path has a parent, which has all components but the last, or it is at most a slash. -/
theorem parent?_cases (path : Text) :
    (parent? path = none ∧ ∀ component ∈ components path, component = .root) ∨
    ∃ parent component, parent? path = some parent ∧ component ≠ .root ∧
      components path = components parent ++ [component] := by
  have hcomponents : components path = Component.ofAnchor (anchored path).1 ++
      ((trimEnd (Text.cut '/' (anchored path).2)).filter fun piece => !isVoid piece).map Component.ofPiece := by
    rw [filter_trimEnd, components_of_anchored]
  rcases (trimEnd (Text.cut '/' (anchored path).2)).eq_nil_or_concat with hnil | ⟨pieces, last, hpieces⟩
  · rw [hnil, List.filter_nil, List.map_nil, List.append_nil] at hcomponents
    have hparent : parent? path = if (anchored path).1 = ['.'] then some [] else none := by
      rw [parent?]
      simp only [hnil]
    rcases anchored_cases path with h | h | h <;> rw [h] at hcomponents hparent
    · exact Or.inl ⟨hparent, by simp [hcomponents, Component.ofAnchor]⟩
    · exact Or.inl ⟨hparent, by simp [hcomponents, Component.ofAnchor]⟩
    · exact Or.inr ⟨[], .here, hparent, by simp, hcomponents⟩
  · rw [List.concat_eq_append] at hpieces
    obtain ⟨voids, hcut, -⟩ := trimEnd_append_voids (Text.cut '/' (anchored path).2)
    rw [hpieces, List.append_assoc] at hcut
    refine Or.inr ⟨_, .ofPiece last, parent?_of_pieces hpieces, ofPiece_ne_root last, ?_⟩
    rw [components_anchored_joinWith hcut (by simp), hcomponents, hpieces, List.filter_append,
      List.filter_singleton, isVoid_of_trimEnd hpieces, List.map_append, List.append_assoc]
    rfl

theorem depth_of_components {parent : Text} {component : Component} (hroot : component ≠ .root)
    (h : components path = components parent ++ [component]) : depth path = depth parent + 1 := by
  rw [depth_eq, depth_eq, h, List.countP_append]
  simp [hroot]

theorem depth_of_parent?_eq_none (h : ∀ component ∈ components path, component = .root) : depth path = 0 := by
  rw [depth_eq, List.countP_eq_zero]
  intro component hmem
  simpa using h component hmem

/-! ### Joining -/

/-- Paths with the same components are the same to join to. -/
theorem components_join_congr (h : components base = components base') (path : Text) :
    components (join base path) = components (join base' path) := by
  cases habsolute : Path.isAbsolute path with
  | true => simp only [join, habsolute, if_true]
  | false =>
      have hjoin : ∀ base : Text, base ≠ [] → components (join base path) = components base ++ steps path := by
        intro base hbase
        rw [components_eq, anchor_join habsolute hbase, steps_join habsolute, components_eq base,
          List.append_assoc]
      by_cases hbase : base = []
      · subst hbase
        rw [eq_nil_of_components_eq_nil h.symm]
      · have hbase' : base' ≠ [] := by
          rintro rfl
          exact hbase (eq_nil_of_components_eq_nil h)
        rw [hjoin base hbase, hjoin base' hbase', h]

end Path

end Scaffold
