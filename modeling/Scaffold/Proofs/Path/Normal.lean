import Scaffold.Proofs.Path.Join

/-! Normal forms of paths. A step up takes back the name before it, whatever that name stands for in a file
system. Paths of names only are normal, and what is seen from such a directory with steps up in front is seen
from one of the directories above. -/

namespace Scaffold.Path

/-- One more component behind a path in normal form. -/
def normalStep (path : List Component) : Component → List Component
  | .up =>
    match path.getLast? with
    | some (.name _) => path.dropLast
    | some .root => path
    | _ => path ++ [.up]
  | component => path ++ [component]

/-- The path without names that are taken back. -/
def normal (path : List Component) : List Component := path.foldl normalStep []

/-- What a path leads to, seen from a directory. -/
def resolve (directory : List Component) (path : Text) : List Component :=
  normal (if isAbsolute path then components path else directory ++ components path)

/-- A path of names, which is relative and has no steps up. -/
def IsNames (path : List Component) : Prop := ∀ component ∈ path, ∃ text, component = .name text

theorem IsNames.append {path rest : List Component} (hpath : IsNames path) (hrest : IsNames rest) :
    IsNames (path ++ rest) := by
  intro component hmem
  rcases List.mem_append.mp hmem with h | h
  · exact hpath component h
  · exact hrest component h

theorem IsNames.singleton (text : Text) : IsNames [.name text] := by
  intro component hmem
  exact ⟨text, List.mem_singleton.mp hmem⟩

theorem foldl_normalStep_of_isNames {rest : List Component} (hrest : IsNames rest) (path : List Component) :
    rest.foldl normalStep path = path ++ rest := by
  induction rest generalizing path with
  | nil => rw [List.append_nil]; rfl
  | cons component rest ih =>
      obtain ⟨text, rfl⟩ := hrest component List.mem_cons_self
      have htail : IsNames rest := fun c hc => hrest c (List.mem_cons_of_mem _ hc)
      rw [List.foldl_cons, ih htail]
      show (path ++ [.name text]) ++ rest = path ++ .name text :: rest
      rw [List.append_assoc, List.singleton_append]

theorem normal_of_isNames {path : List Component} (hpath : IsNames path) : normal path = path :=
  foldl_normalStep_of_isNames hpath []

/-- A name and the step up behind it lead nowhere. -/
theorem normal_append_name_up {path rest : List Component} (hpath : IsNames path) (text : Text)
    (hrest : IsNames rest) : normal (path ++ .name text :: .up :: rest) = path ++ rest := by
  have hname : IsNames (path ++ [.name text]) := hpath.append (IsNames.singleton text)
  have hstep : normalStep (path ++ [.name text]) .up = path := by
    rw [normalStep, List.getLast?_concat, List.dropLast_concat]
  calc normal (path ++ .name text :: .up :: rest)
      = (.up :: rest).foldl normalStep (normal (path ++ [.name text])) := by
        rw [normal, normal, ← List.foldl_append, List.append_assoc, List.singleton_append]
    _ = rest.foldl normalStep path := by
        rw [normal_of_isNames hname, List.foldl_cons, hstep]
    _ = path ++ rest := foldl_normalStep_of_isNames hrest path

theorem resolve_of_isNames {directory : List Component} {path : Text} (hdirectory : IsNames directory)
    (hrelative : isAbsolute path = false) (hpath : IsNames (components path)) :
    resolve directory path = directory ++ components path := by
  rw [resolve, hrelative, if_neg Bool.false_ne_true, normal_of_isNames (hdirectory.append hpath)]

/-! ### Names as they are spelled in directives -/

variable {directory : List Component} {front file : Text}

theorem resolve_name (hdirectory : IsNames directory) (hfile : IsFileName file) :
    resolve directory file = directory ++ [.name file] := by
  have hrelative := hfile.isAbsolute []
  rw [List.append_nil] at hrelative
  have hnames : IsNames (components file) := by
    rw [hfile.components.2]
    exact IsNames.singleton file
  rw [resolve_of_isNames hdirectory hrelative hnames, hfile.components.2]

theorem resolve_slash (hdirectory : IsNames directory) (hfront : IsFileName front) (hfile : IsFileName file) :
    resolve directory (front ++ '/' :: file) = directory ++ [.name front, .name file] := by
  have hcomponents : components (front ++ '/' :: file) = [.name front, .name file] := by
    rw [hfront.components_slash, hfile.steps]
  have hnames : IsNames (components (front ++ '/' :: file)) := by
    rw [hcomponents]
    exact (IsNames.singleton _).append (IsNames.singleton _)
  rw [resolve_of_isNames hdirectory (hfront.isAbsolute _) hnames, hcomponents]

/-- A step up leads past the last name of the directory. -/
theorem resolve_up (hdirectory : IsNames directory) (last : Text) {middle : Text} (hmiddle : IsFileName middle)
    (hfront : IsFileName front) (hfile : IsFileName file) :
    resolve (directory ++ [.name last]) (['.', '.'] ++ '/' :: (middle ++ '/' :: (front ++ '/' :: file))) =
      directory ++ [.name middle, .name front, .name file] := by
  have hcomponents : components (['.', '.'] ++ '/' :: (middle ++ '/' :: (front ++ '/' :: file))) =
      [.up, .name middle, .name front, .name file] := by
    rw [components_eq, steps_up, steps_append_slash, steps_append_slash, hmiddle.steps, hfront.steps, hfile.steps]
    rfl
  have hnames : IsNames [.name middle, .name front, .name file] :=
    (IsNames.singleton _).append ((IsNames.singleton _).append (IsNames.singleton _))
  have hrelative : isAbsolute (['.', '.'] ++ '/' :: (middle ++ '/' :: (front ++ '/' :: file))) = false := rfl
  rw [resolve, hrelative, if_neg Bool.false_ne_true, hcomponents, List.append_assoc]
  exact normal_append_name_up hdirectory last hnames

end Scaffold.Path
