import Scaffold.Proofs.Path.Join

/-! Files in directories, by their paths. A file name can be joined to a directory before or after the directory
is seen from a root, whatever texts the two are; and the parent of the path of a file in a directory that ends
in a name is the path of that directory, letter by letter. -/

namespace Scaffold

namespace Path

variable {base name file : Text}

theorem IsFileName.isAbsolute_self (h : IsFileName file) : Path.isAbsolute file = false := by
  simpa using h.isAbsolute []

/-- The slash that joining nothing leaves is the one that joining a file would put there. -/
theorem join_join_nil (hfile : Path.isAbsolute file = false) (root : Text) :
    join (join root []) file = join root file := by
  have hnil : Path.isAbsolute ([] : Text) = false := rfl
  by_cases hroot : (root = [] || root.getLast? == some '/') = true
  · simp [join, hfile, hnil, hroot]
  · rw [Bool.not_eq_true] at hroot
    simp [join, hfile, hnil, hroot]

/-- Seen from a root, a file in a directory is a file in the directory seen from the root. -/
theorem join_join_name (hfile : IsFileName file) (root directory : Text) :
    join root (join directory file) = join (join root directory) file := by
  have hrelative := hfile.isAbsolute_self
  by_cases hempty : directory = []
  · subst hempty
    rw [join_join_nil hrelative]
    simp [join, hrelative]
  · cases habsolute : Path.isAbsolute directory with
    | false => exact (join_join habsolute hempty hrelative root).symm
    | true =>
        have hroot : join root directory = directory := by rw [join, if_pos habsolute]
        have hpath : Path.isAbsolute (join directory file) = true := by
          obtain ⟨c, cs, rfl⟩ := List.exists_cons_of_ne_nil hempty
          rw [join, hrelative, if_neg Bool.false_ne_true]
          split <;> exact habsolute
        rw [hroot, join, if_pos hpath]

/-! ### Parents -/

theorem anchored_append (path : Text) : (anchored path).1 ++ (anchored path).2 = path := by
  unfold anchored
  split <;> rfl

theorem anchored_append_slash (hbase : base ≠ []) (path : Text) :
    anchored (base ++ '/' :: path) = ((anchored base).1, (anchored base).2 ++ '/' :: path) := by
  obtain ⟨c, cs, rfl⟩ := List.exists_cons_of_ne_nil hbase
  by_cases hslash : c = '/'
  · subst hslash
    rfl
  by_cases hdot : c = '.'
  · subst hdot
    cases cs with
    | nil => rfl
    | cons d ds =>
        by_cases hd : d = '/'
        · subst hd
          rfl
        · simp [anchored, hd]
  · simp [anchored, hslash, hdot]

theorem trimEnd_concat (hname : IsFileName name) (pieces : List Text) :
    trimEnd (pieces ++ [name]) = pieces ++ [name] := by
  have hvoid : isVoid name = false := by simp [isVoid, hname.ne_nil, hname.ne_dot]
  simp [trimEnd, hvoid]

theorem anchored_of_isFileName (hname : IsFileName name) : anchored name = ([], name) := by
  obtain ⟨c, cs, rfl⟩ := List.exists_cons_of_ne_nil hname.ne_nil
  have hslash := hname.slash_notMem
  have hdot := hname.ne_dot
  unfold anchored
  split <;> simp_all

/-- The last piece of a path that ends in a name is this name. -/
theorem cut_anchored_join (hname : IsFileName name) (base : Text) :
    ∃ pieces, Text.cut '/' (anchored (join base name)).2 = pieces ++ [name] := by
  have hcut := Text.cut_of_notMem hname.slash_notMem
  by_cases hbase : base = []
  · subst hbase
    refine ⟨[], ?_⟩
    simp [join, hname.isAbsolute_self, anchored_of_isFileName hname, hcut]
  · obtain ⟨body, -, hjoin⟩ := join_eq hname.isAbsolute_self hbase
    rw [hjoin]
    by_cases hbody : body = []
    · subst hbody
      exact ⟨[], hcut⟩
    · rw [anchored_append_slash hbody, Text.cut_append_sep, hcut]
      exact ⟨_, rfl⟩

theorem parent?_of_pieces {path last : Text} {pieces : List Text}
    (h : trimEnd (Text.cut '/' (anchored path).2) = pieces ++ [last]) :
    parent? path = some ((anchored path).1 ++ Text.joinWith '/' (trimEnd pieces)) := by
  unfold parent?
  simp only [h]
  split
  next hnil => simp at hnil
  next => rw [List.dropLast_concat]

/-- A file in a directory whose path ends in a name has that path as its parent. -/
theorem parent?_join_join (hname : IsFileName name) (hfile : IsFileName file) (base : Text) :
    parent? (join (join base name) file) = some (join base name) := by
  have hrelative := hfile.isAbsolute_self
  obtain ⟨front, hfront⟩ := join_eq_append base
  have hdirectory : join base name = front ++ name := hfront name hname.isAbsolute_self
  have hne : join base name ≠ [] := by
    rw [hdirectory]
    exact List.append_ne_nil_of_right_ne_nil _ hname.ne_nil
  have hlast : ((join base name).getLast? == some '/') = false := by
    rw [hdirectory, List.getLast?_append, List.getLast?_eq_some_getLast hname.ne_nil, Option.some_or,
      beq_eq_false_iff_ne]
    intro heq
    exact hname.slash_notMem (Option.some.inj heq ▸ List.getLast_mem hname.ne_nil)
  have hpath : join (join base name) file = join base name ++ '/' :: file := by
    rw [join, hrelative, if_neg Bool.false_ne_true, if_neg (by simp [hne, hlast])]
  obtain ⟨pieces, hpieces⟩ := cut_anchored_join hname base
  have hfile : trimEnd (Text.cut '/' (anchored (join base name ++ '/' :: file)).2) = pieces ++ [name] ++ [file] := by
    rw [anchored_append_slash hne, Text.cut_append_sep, hpieces, Text.cut_of_notMem hfile.slash_notMem,
      trimEnd_concat hfile]
  calc parent? (join (join base name) file)
      = some ((anchored (join base name)).1 ++ Text.joinWith '/' (trimEnd (pieces ++ [name]))) := by
        rw [hpath, parent?_of_pieces hfile, anchored_append_slash hne]
    _ = some ((anchored (join base name)).1 ++ (anchored (join base name)).2) := by
        rw [trimEnd_concat hname, ← hpieces, Text.joinWith_cut]
    _ = some (join base name) := by rw [anchored_append]

end Path

end Scaffold
