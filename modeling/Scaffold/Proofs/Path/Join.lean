import Scaffold.Path
import Scaffold.Proofs.Text.Lines

/-! The components of joined paths. A path is an anchor, which is its leading slash or dot, and the steps
that its pieces stand for. Joining a relative path keeps the anchor of the first path and puts the steps of
the second behind those of the first; hence a file name that is joined becomes the last component. -/

namespace Scaffold

namespace Path

/-- The components that the pieces of a path stand for, be the path absolute or not. -/
def steps (path : Text) : List Component :=
  ((Text.cut '/' path).filter fun piece => !isVoid piece).map Component.ofPiece

/-- The component that the path starts with before its steps. -/
def anchor (path : Text) : List Component := Component.ofAnchor (anchored path).1

theorem steps_append_slash (base path : Text) : steps (base ++ '/' :: path) = steps base ++ steps path := by
  rw [steps, Text.cut_append_sep, List.filter_append, List.map_append]
  rfl

theorem steps_slash (path : Text) : steps ('/' :: path) = steps path :=
  steps_append_slash [] path

theorem steps_up (path : Text) : steps (['.', '.'] ++ '/' :: path) = .up :: steps path :=
  steps_append_slash ['.', '.'] path

theorem components_eq (path : Text) : components path = anchor path ++ steps path := by
  have hbody : steps (anchored path).2 = steps path := by
    unfold anchored
    split
    · exact (steps_slash _).symm
    · rfl
    · exact (steps_slash _).trans (steps_append_slash ['.'] _).symm
    · rfl
  rw [← hbody]
  rfl

theorem anchor_eq_nil {path : Text} (hroot : ∀ body, path ≠ '/' :: body) (hdot : path ≠ ['.'])
    (hhere : ∀ body, path ≠ '.' :: '/' :: body) : anchor path = [] := by
  unfold anchor anchored
  split
  · exact absurd rfl (hroot _)
  · exact absurd rfl hdot
  · exact absurd rfl (hhere _)
  · rfl

theorem anchor_append_slash {base : Text} (hbase : base ≠ []) (path : Text) :
    anchor (base ++ '/' :: path) = anchor base := by
  by_cases hroot : ∃ body, base = '/' :: body
  · obtain ⟨body, rfl⟩ := hroot
    rfl
  by_cases hdot : base = ['.']
  · subst hdot
    rfl
  by_cases hhere : ∃ body, base = '.' :: '/' :: body
  · obtain ⟨body, rfl⟩ := hhere
    rfl
  rw [anchor_eq_nil (fun body h => hroot ⟨body, h⟩) hdot fun body h => hhere ⟨body, h⟩]
  obtain ⟨c, cs, rfl⟩ := List.exists_cons_of_ne_nil hbase
  apply anchor_eq_nil
  · rintro body h
    exact hroot ⟨cs, by rw [(List.cons.inj h).1]⟩
  · intro h
    simp at h
  · intro body h
    obtain ⟨rfl, htail⟩ := List.cons.inj h
    cases cs with
    | nil => exact hdot rfl
    | cons d ds => exact hhere ⟨ds, by rw [(List.cons.inj htail).1]⟩

/-- A relative path is put behind the path it is joined to, of which a slash at the end is no part. -/
theorem join_eq {path : Text} (hpath : isAbsolute path = false) {base : Text} (hbase : base ≠ []) :
    ∃ body, (base = body ++ ['/'] ∨ base = body) ∧ join base path = body ++ '/' :: path := by
  rw [join, hpath]
  by_cases hend : base.getLast? = some '/'
  · obtain ⟨body, rfl⟩ := List.getLast?_eq_some_iff.mp hend
    exact ⟨body, Or.inl rfl, by simp⟩
  · exact ⟨base, Or.inr rfl, by simp [hbase, hend]⟩

theorem isAbsolute_append {start : Text} (hne : start ≠ []) (path : Text) :
    isAbsolute (start ++ path) = isAbsolute start := by
  obtain ⟨c, cs, rfl⟩ := List.exists_cons_of_ne_nil hne
  rfl

/-- A directory to go through puts the same in front of every relative path. -/
theorem join_eq_append (base : Text) :
    ∃ front, ∀ path, isAbsolute path = false → join base path = front ++ path := by
  by_cases hbase : (base = [] || base.getLast? == some '/') = true
  · refine ⟨base, fun path hpath => ?_⟩
    rw [join, hpath, if_neg Bool.false_ne_true, if_pos hbase]
  · refine ⟨base ++ ['/'], fun path hpath => ?_⟩
    rw [join, hpath, if_neg Bool.false_ne_true, if_neg hbase, List.append_assoc]
    rfl

theorem join_join {middle path : Text} (hmiddle : isAbsolute middle = false) (hne : middle ≠ [])
    (hpath : isAbsolute path = false) (base : Text) :
    join (join base middle) path = join base (join middle path) := by
  obtain ⟨front, hfront⟩ := join_eq_append base
  have hlast : (front ++ middle).getLast? = middle.getLast? := by
    rw [List.getLast?_append, List.getLast?_eq_some_getLast hne, Option.some_or]
  by_cases hend : (middle.getLast? == some '/') = true
  · have hinner : join middle path = middle ++ path := by simp [join, hpath, hend]
    have houter : join (front ++ middle) path = front ++ middle ++ path := by simp [join, hpath, hlast, hend]
    rw [hinner, hfront middle hmiddle, houter, hfront _ ((isAbsolute_append hne path).trans hmiddle), List.append_assoc]
  · have hinner : join middle path = middle ++ '/' :: path := by simp [join, hpath, hend, hne]
    have houter : join (front ++ middle) path = front ++ middle ++ '/' :: path := by
      simp [join, hpath, hlast, hend, hne]
    rw [hinner, hfront middle hmiddle, houter, hfront _ ((isAbsolute_append hne _).trans hmiddle), List.append_assoc]

theorem steps_join {path : Text} (hpath : isAbsolute path = false) (base : Text) :
    steps (join base path) = steps base ++ steps path := by
  by_cases hbase : base = []
  · subst hbase
    simp [join, hpath, steps, Text.cut, isVoid]
  · obtain ⟨body, hbody, hjoin⟩ := join_eq hpath hbase
    rw [hjoin, steps_append_slash]
    rcases hbody with rfl | rfl
    · rw [steps_append_slash]
      simp [steps, Text.cut, isVoid]
    · rfl

theorem anchor_join {path : Text} (hpath : isAbsolute path = false) {base : Text} (hbase : base ≠ []) :
    anchor (join base path) = anchor base := by
  obtain ⟨body, hbody, hjoin⟩ := join_eq hpath hbase
  rw [hjoin]
  rcases hbody with rfl | rfl
  · by_cases hempty : body = []
    · subst hempty
      rfl
    · rw [anchor_append_slash hempty, anchor_append_slash hempty]
  · exact anchor_append_slash hbase path

/-- A relative path that does not start with a dot of its own adds its components. -/
theorem components_join {path : Text} (hpath : anchor path = []) (base : Text) :
    components (join base path) = components base ++ components path := by
  have hrelative : isAbsolute path = false := by
    cases path with
    | nil => rfl
    | cons c cs =>
        by_cases hc : c = '/'
        · subst hc
          exact absurd hpath (by simp [anchor, anchored, Component.ofAnchor])
        · simp [isAbsolute, hc]
  by_cases hbase : base = []
  · subst hbase
    simp [join, hrelative, components, anchored, Component.ofAnchor, Text.cut, isVoid]
  · rw [components_eq, components_eq base, components_eq path, anchor_join hrelative hbase,
      steps_join hrelative, hpath, List.nil_append, List.append_assoc]

/-- A text that names a file in a directory. -/
structure IsFileName (file : Text) : Prop where
  ne_nil : file ≠ []
  ne_dot : file ≠ ['.']
  ne_up : file ≠ ['.', '.']
  slash_notMem : '/' ∉ file

theorem IsFileName.components {file : Text} (hfile : IsFileName file) :
    anchor file = [] ∧ Path.components file = [.name file] := by
  have hanchor : anchor file = [] := by
    apply anchor_eq_nil
    · rintro body rfl
      exact hfile.slash_notMem List.mem_cons_self
    · exact hfile.ne_dot
    · rintro body rfl
      exact hfile.slash_notMem (List.mem_cons_of_mem _ List.mem_cons_self)
  refine ⟨hanchor, ?_⟩
  rw [components_eq, hanchor, steps, Text.cut_of_notMem hfile.slash_notMem]
  simp [isVoid, hfile.ne_nil, hfile.ne_dot, Component.ofPiece, hfile.ne_up]

theorem IsFileName.steps {file : Text} (hfile : IsFileName file) : Path.steps file = [.name file] := by
  have hcomponents := hfile.components.2
  rwa [components_eq, hfile.components.1, List.nil_append] at hcomponents

theorem IsFileName.isAbsolute {file : Text} (hfile : IsFileName file) (path : Text) :
    Path.isAbsolute (file ++ path) = false := by
  obtain ⟨c, cs, rfl⟩ := List.exists_cons_of_ne_nil hfile.ne_nil
  have hc : c ≠ '/' := by
    rintro rfl
    exact hfile.slash_notMem List.mem_cons_self
  simpa [Path.isAbsolute] using hc

/-- A directory in front of a path is its first component. -/
theorem IsFileName.components_slash {file : Text} (hfile : IsFileName file) (path : Text) :
    Path.components (file ++ '/' :: path) = .name file :: Path.steps path := by
  rw [components_eq, anchor_append_slash hfile.ne_nil, hfile.components.1, steps_append_slash, hfile.steps]
  rfl

/-- A word with dots in it names a file. -/
theorem IsFileName.of_word_append {s t : Text} (hs : IsWord s) (hne : s ≠ []) (ht : '/' ∉ t) :
    IsFileName (s ++ t) := by
  obtain ⟨c, cs, rfl⟩ := List.exists_cons_of_ne_nil hne
  have hdot : c ≠ '.' := by
    rintro rfl
    exact hs.notMem (by decide) List.mem_cons_self
  refine ⟨List.cons_ne_nil _ _, ?_, ?_, ?_⟩
  · intro h
    exact hdot (List.cons.inj h).1
  · intro h
    exact hdot (List.cons.inj h).1
  · rw [List.mem_append, not_or]
    exact ⟨hs.notMem (by decide), ht⟩

theorem IsFileName.of_isWord {w : Text} (hw : IsWord w) (hne : w ≠ []) : IsFileName w := by
  have hname := of_word_append hw hne List.not_mem_nil
  rwa [List.append_nil] at hname

theorem IsFileName.of_isIdentifier {w : Text} (hw : isIdentifier w = true) : IsFileName w :=
  of_isWord (isWord_of_isIdentifier hw) (ne_nil_of_isIdentifier hw)

/-- A file name that is joined becomes the last component. -/
theorem components_join_name {file : Text} (hfile : IsFileName file) (base : Text) :
    components (join base file) = components base ++ [.name file] := by
  rw [components_join hfile.components.1, hfile.components.2]

end Path

end Scaffold
