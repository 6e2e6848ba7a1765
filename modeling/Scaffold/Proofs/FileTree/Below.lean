import Scaffold.Proofs.FileTree.Plain
import Scaffold.Proofs.Path.Join

/-! Paths below a root. A relative path that is joined to a root is gone from where the root leads; if it goes down
by plain names only, its place is that of the root with these names behind it. So two such paths meet only if
they spell the same names. -/

namespace Scaffold

open FileTree (IsPlain EndsIn)

/-- A relative path that spells names which lead down. -/
structure Spells (path : Text) (names : List Text) : Prop where
  route_eq : Route.ofPath path = ⟨false, names, false⟩
  ne_nil : names ≠ []
  isPlain : ∀ name ∈ names, IsPlain name

/-- A path that leads to a root and then spells names which lead down. -/
structure IsBelow (root path : Text) (names : List Text) : Prop where
  route_eq : Route.ofPath path = ⟨Path.isAbsolute root, (Route.ofPath root).names ++ names, false⟩
  ne_nil : names ≠ []
  isPlain : ∀ name ∈ names, IsPlain name

variable {path other root name : Text} {names others before : List Text}

/-! ### The names of joined paths -/

theorem Route.names_append_slash (base path : Text) :
    (Route.ofPath (base ++ '/' :: path)).names = (Route.ofPath base).names ++ (Route.ofPath path).names := by
  simp only [Route.ofPath, Text.cut_append_sep, List.filter_append]

theorem Route.ofPath_join (hpath : Path.isAbsolute path = false) (hne : path ≠ []) (base : Text) :
    Route.ofPath (Path.join base path) =
      ⟨Path.isAbsolute base, (Route.ofPath base).names ++ (Route.ofPath path).names, (Route.ofPath path).slash⟩ := by
  by_cases hbase : base = []
  · subst hbase
    rw [Path.join, hpath]
    exact congrArg (fun absolute => Route.mk absolute _ _) hpath
  · obtain ⟨body, hbody, hjoin⟩ := Path.join_eq hpath hbase
    have habsolute : Path.isAbsolute (body ++ '/' :: path) = Path.isAbsolute base := by
      rcases hbody with rfl | rfl
      · cases body <;> rfl
      · cases base with
        | nil => exact absurd rfl hbase
        | cons => rfl
    have hnames : (Route.ofPath (body ++ '/' :: path)).names =
        (Route.ofPath base).names ++ (Route.ofPath path).names := by
      rcases hbody with rfl | rfl
      · have hend : (Route.ofPath []).names = [] := rfl
        rw [Route.names_append_slash, Route.names_append_slash body, hend, List.append_nil]
      · exact Route.names_append_slash base path
    have hslash : (Route.ofPath (body ++ '/' :: path)).slash = (Route.ofPath path).slash := by
      obtain ⟨start, last, rfl⟩ : ∃ start last, path = start ++ [last] :=
        ⟨_, _, (List.dropLast_concat_getLast hne).symm⟩
      rw [Route.ofPath, Route.ofPath, ← List.cons_append, ← List.append_assoc, List.getLast?_concat,
        List.getLast?_concat]
    rw [hjoin, ← habsolute, ← hnames, ← hslash]
    rfl

theorem Path.IsFileName.spells (h : Path.IsFileName name) : Spells name [name] := by
  have hslash : (name.getLast? == some '/') = false := by
    rw [beq_eq_false_iff_ne]
    exact fun hlast => h.slash_notMem (List.mem_of_getLast? hlast)
  have hnames : (Text.cut '/' name).filter (· ≠ []) = [name] := by
    rw [Text.cut_of_notMem h.slash_notMem]
    simp [h.ne_nil]
  have habsolute := h.isAbsolute []
  rw [List.append_nil] at habsolute
  refine ⟨by rw [Route.ofPath, hslash, hnames, habsolute], List.cons_ne_nil _ _, fun other hother => ?_⟩
  rw [List.mem_singleton.mp hother]
  exact ⟨h.ne_dot, h.ne_up⟩

theorem Spells.isAbsolute_eq (h : Spells path names) : Path.isAbsolute path = false :=
  congrArg Route.absolute h.route_eq

theorem Spells.path_ne_nil (h : Spells path names) : path ≠ [] := by
  rintro rfl
  exact h.ne_nil (congrArg Route.names h.route_eq).symm

theorem Spells.isBelow (h : Spells path names) (root : Text) : IsBelow root (Path.join root path) names :=
  ⟨by rw [Route.ofPath_join h.isAbsolute_eq h.path_ne_nil, h.route_eq], h.ne_nil, h.isPlain⟩

theorem Spells.join (h : Spells path names) (h' : Spells other others) :
    Spells (Path.join path other) (names ++ others) := by
  refine ⟨?_, List.append_ne_nil_of_left_ne_nil h.ne_nil _, fun name hname => ?_⟩
  · rw [(h'.isBelow path).route_eq, h.isAbsolute_eq, h.route_eq]
  · exact (List.mem_append.mp hname).elim (h.isPlain name) (h'.isPlain name)

/-! ### The places of paths below a root -/

namespace IsBelow

/-- Such a path spells the same names behind those of the root. -/
theorem drop_names (h : IsBelow root path names) :
    (Route.ofPath path).names.drop (Route.ofPath root).names.length = names := by
  rw [h.route_eq, List.drop_left]

theorem eq_concat (h : IsBelow root path names) : ∃ before name, names = before ++ [name] :=
  ⟨_, _, (List.dropLast_concat_getLast h.ne_nil).symm⟩

theorem isPlain_dropLast (h : IsBelow root path names) : ∀ name ∈ names.dropLast, IsPlain name :=
  fun name hname => h.isPlain name ((List.dropLast_prefix names).subset hname)

theorem endsIn (h : IsBelow root path names) : ∃ name, EndsIn path name := by
  obtain ⟨before, name, rfl⟩ := h.eq_concat
  refine ⟨name, ?_, by rw [h.route_eq], h.isPlain name (List.mem_append_right _ (List.mem_singleton_self name))⟩
  rw [h.route_eq, ← List.append_assoc, List.getLast?_concat]

end IsBelow

namespace FileTree

variable {tree later : FileTree} {place : Location}

/-- The place that the root leads to by directories. -/
def rootOf (tree : FileTree) (root : Text) : Except Fault Location :=
  tree.descend ((Route.ofPath root).start tree.workingDirectory) (Route.ofPath root).names

theorem Grows.rootOf (hgrows : tree.Grows later) (h : tree.rootOf root = .ok place) :
    later.rootOf root = .ok place := by
  rw [FileTree.rootOf, hgrows.workingDirectory_eq]
  exact hgrows.descend h

theorem placeOf_of_isBelow (h : IsBelow root path names) : tree.placeOf path =
    if '\x00' ∈ path then .error .nulInPath
    else if path = [] then .error .notFound
    else if longestPath < Text.byteLength path then .error .nameTooLong
    else ((tree.rootOf root).bind fun place => tree.descend place names.dropLast).bind
      fun parent => placeIn parent (names.getLast?.getD []) := by
  have hstart : (Route.ofPath path).start tree.workingDirectory = (Route.ofPath root).start tree.workingDirectory := by
    rw [h.route_eq]
    rfl
  have hnames : (Route.ofPath path).names = (Route.ofPath root).names ++ names := by rw [h.route_eq]
  obtain ⟨before, name, rfl⟩ := h.eq_concat
  rw [placeOf, rootOf, hstart, hnames, ← List.append_assoc, List.dropLast_concat, List.dropLast_concat,
    List.getLast?_concat, List.getLast?_concat, descend_append]

theorem place_eq_of_placeOf (h : IsBelow root path names) (hplace : tree.placeOf path = .ok place) :
    ∃ start, tree.rootOf root = .ok start ∧ place = start ++ names := by
  rw [placeOf_of_isBelow h] at hplace
  split at hplace
  · exact nomatch hplace
  · split at hplace
    · exact nomatch hplace
    · split at hplace
      · exact nomatch hplace
      · cases hroot : tree.rootOf root with
        | error fault => rw [hroot] at hplace; exact nomatch hplace
        | ok start =>
            rw [hroot] at hplace
            cases hparent : tree.descend start names.dropLast with
            | error fault => rw [Except.bind, hparent] at hplace; exact nomatch hplace
            | ok parent =>
                rw [Except.bind, hparent, Except.bind, placeIn] at hplace
                split at hplace
                · exact nomatch hplace
                · refine ⟨start, rfl, ?_⟩
                  rw [← Except.ok.inj hplace, place_eq_of_descend h.isPlain_dropLast hparent, List.append_assoc]
                  obtain ⟨before, name, rfl⟩ := h.eq_concat
                  rw [List.dropLast_concat, List.getLast?_concat, Option.getD_some]

/-- The place of a path depends on that of the root and on the directories on the way down from it. -/
theorem placeOf_congr (h : IsBelow root path names) (hroot : later.rootOf root = tree.rootOf root)
    (hway : ∀ start, tree.rootOf root = .ok start → ∀ way, way <+: names.dropLast → way ≠ [] →
      later.at? (start ++ way) = tree.at? (start ++ way)) : later.placeOf path = tree.placeOf path := by
  rw [placeOf_of_isBelow h, placeOf_of_isBelow h, hroot]
  cases hstart : tree.rootOf root with
  | error fault => rfl
  | ok start =>
      simp only [Except.bind, descend_congr h.isPlain_dropLast (hway start hstart)]

end FileTree

end Scaffold
