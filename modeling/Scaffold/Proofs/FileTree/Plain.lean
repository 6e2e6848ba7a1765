import Scaffold.Proofs.FileTree.Change

/-! Paths in a tree without links. There a path is gone from directory to directory, and it leads to the same place
whatever it is resolved for, if it ends in a name. What a change then does is decided by what stands at this
one place. -/

namespace Scaffold.FileTree

/-- No links stand in the tree. -/
def LinkFree (tree : FileTree) : Prop := ∀ place target, tree.at? place ≠ some (.link target)

/-- Enters one directory after the other. -/
def descend (tree : FileTree) : Location → List Text → Except Fault Location
  | here, [] => .ok here
  | here, name :: rest =>
    if name = ("." : Text) then descend tree here rest
    else if name = (".." : Text) then descend tree here.dropLast rest
    else if longestName < Text.byteLength name then .error .nameTooLong
    else
      match tree.at? (here ++ [name]) with
      | some .directory => descend tree (here ++ [name]) rest
      | none => .error .notFound
      | some _ => .error .notDirectory

/-- The place of a name in a directory. -/
def placeIn (parent : Location) (name : Text) : Except Fault Location :=
  if longestName < Text.byteLength name then .error .nameTooLong else .ok (parent ++ [name])

/-- The place that a path leads to by directories and a last name, whether or not something stands there. -/
def placeOf (tree : FileTree) (path : Text) : Except Fault Location :=
  if '\x00' ∈ path then .error .nulInPath
  else if path = [] then .error .notFound
  else if longestPath < Text.byteLength path then .error .nameTooLong
  else (tree.descend ((Route.ofPath path).start tree.workingDirectory) (Route.ofPath path).names.dropLast).bind
    fun parent => placeIn parent ((Route.ofPath path).names.getLast?.getD [])

/-- A name that leads down. -/
structure IsPlain (name : Text) : Prop where
  ne_dot : name ≠ ("." : Text)
  ne_up : name ≠ (".." : Text)

/-- The path ends in a name that leads down. -/
structure EndsIn (path name : Text) : Prop where
  getLast?_names : (Route.ofPath path).names.getLast? = some name
  slash_eq : (Route.ofPath path).slash = false
  isPlain : IsPlain name

theorem linkFree_of_entries {tree : FileTree} (h : ∀ entry ∈ tree.entries, ∀ target, entry.2 ≠ .link target) :
    tree.LinkFree := by
  intro place target hlink
  rw [at?] at hlink
  split at hlink
  · cases hlink
  · obtain ⟨before, after, hentries, -⟩ := List.lookup_eq_some_iff.mp hlink
    exact h (place, .link target) (hentries ▸ List.mem_append_right _ List.mem_cons_self) target rfl

variable {tree other : FileTree} {here place : Location} {path name : Text} {names rest : List Text}
  {purpose : Purpose} {slash : Bool}

/-- Links do not come up while a tree grows. -/
theorem Grows.linkFree (hgrows : tree.Grows other) (hlinks : tree.LinkFree) : other.LinkFree := by
  intro place target hlink
  have hgrown := hgrows.grown place
  rw [hlink] at hgrown
  exact hlinks place target hgrown.of_link

/-! ### Entering directories -/

theorem descend_append (here : Location) (names rest : List Text) :
    tree.descend here (names ++ rest) = (tree.descend here names).bind fun place => tree.descend place rest := by
  induction names generalizing here with
  | nil => rfl
  | cons name names ih =>
      rw [List.cons_append, descend, descend]
      split
      · exact ih here
      · split
        · exact ih here.dropLast
        · split
          · rfl
          · split
            · exact ih _
            · rfl
            · rfl

/-- Plain names lead down by themselves. -/
theorem place_eq_of_descend (hnames : ∀ name ∈ names, IsPlain name) (h : tree.descend here names = .ok place) :
    place = here ++ names := by
  induction names generalizing here with
  | nil => rw [List.append_nil, Except.ok.inj h]
  | cons name names ih =>
      have hname := hnames name List.mem_cons_self
      rw [descend, if_neg hname.ne_dot, if_neg hname.ne_up] at h
      split at h
      · exact nomatch h
      · split at h
        · rw [ih (fun later hlater => hnames later (List.mem_cons_of_mem _ hlater)) h, List.append_assoc]
          rfl
        · exact nomatch h
        · exact nomatch h

/-- Only what stands on the way matters. -/
theorem descend_congr (hnames : ∀ name ∈ names, IsPlain name)
    (h : ∀ way, way <+: names → way ≠ [] → other.at? (here ++ way) = tree.at? (here ++ way)) :
    other.descend here names = tree.descend here names := by
  induction names generalizing here with
  | nil => rfl
  | cons name names ih =>
      have hname := hnames name List.mem_cons_self
      have hrest : ∀ way, way <+: names → way ≠ [] →
          other.at? (here ++ [name] ++ way) = tree.at? (here ++ [name] ++ way) := by
        intro way hway _
        rw [List.append_assoc]
        exact h (name :: way) (List.cons_prefix_cons.mpr ⟨rfl, hway⟩) (List.cons_ne_nil _ _)
      rw [descend, descend, if_neg hname.ne_dot, if_neg hname.ne_up, if_neg hname.ne_dot, if_neg hname.ne_up,
        h [name] (List.cons_prefix_cons.mpr ⟨rfl, List.nil_prefix⟩) (List.cons_ne_nil _ _),
        ih (fun later hlater => hnames later (List.mem_cons_of_mem _ hlater)) hrest]

theorem descend_eq_of_at? (h : ∀ place, other.at? place = tree.at? place) (here : Location) (names : List Text) :
    other.descend here names = tree.descend here names := by
  induction names generalizing here with
  | nil => rfl
  | cons name names ih => simp only [descend, h, ih]

/-- Directories that could be entered can be entered in every tree that comes after. -/
theorem Grows.descend (hgrows : tree.Grows other) (h : tree.descend here names = .ok place) :
    other.descend here names = .ok place := by
  induction names generalizing here with
  | nil => exact h
  | cons name names ih =>
      rw [FileTree.descend] at h ⊢
      split
      next hdot =>
        rw [if_pos hdot] at h
        exact ih h
      next hdot =>
        rw [if_neg hdot] at h
        split
        next hup =>
          rw [if_pos hup] at h
          exact ih h
        next hup =>
          rw [if_neg hup] at h
          split
          next hlength =>
            rw [if_pos hlength] at h
            exact h
          next hlength =>
            rw [if_neg hlength] at h
            have hgrown := hgrows.grown (here ++ [name])
            split at h
            next hentry =>
              rw [hentry] at hgrown
              rw [hgrown.directory]
              exact ih h
            · exact nomatch h
            · exact nomatch h

theorem descend_ne_fileExists (here : Location) (names : List Text) :
    tree.descend here names ≠ .error .fileExists := by
  induction names generalizing here with
  | nil => exact nofun
  | cons name names ih =>
      rw [descend]
      split
      · exact ih here
      · split
        · exact ih here.dropLast
        · split
          · exact fun h => absurd (Except.error.inj h) (by decide)
          · split
            · exact ih _
            · exact fun h => absurd (Except.error.inj h) (by decide)
            · exact fun h => absurd (Except.error.inj h) (by decide)

theorem placeOf_ne_fileExists (path : Text) : tree.placeOf path ≠ .error .fileExists := by
  rw [placeOf]
  split
  · exact fun h => absurd (Except.error.inj h) (by decide)
  · split
    · exact fun h => absurd (Except.error.inj h) (by decide)
    · split
      · exact fun h => absurd (Except.error.inj h) (by decide)
      · cases hparent : tree.descend ((Route.ofPath path).start tree.workingDirectory)
            (Route.ofPath path).names.dropLast with
        | error fault =>
            intro h
            rw [Except.error.inj h] at hparent
            exact descend_ne_fileExists _ _ hparent
        | ok parent =>
            rw [Except.bind, placeIn]
            split
            · exact fun h => absurd (Except.error.inj h) (by decide)
            · exact nofun

/-! ### Resolving -/

theorem walk_append {follow : Location → Route → Except Fault Spot} (hlinks : tree.LinkFree) (hrest : rest ≠ [])
    (here : Location) (names : List Text) : tree.walk purpose follow here (names ++ rest) slash =
      (tree.descend here names).bind fun place => tree.walk purpose follow place rest slash := by
  induction names generalizing here with
  | nil => rfl
  | cons name names ih =>
      have hmore : ¬(purpose = .writeFile && (names ++ rest).isEmpty && slash) = true := by simp [hrest]
      rw [List.cons_append, walk, descend, if_neg hmore]
      split
      · exact ih here
      · split
        · exact ih here.dropLast
        · split
          · rfl
          · have hlink := hlinks (here ++ [name])
            rcases hentry : tree.at? (here ++ [name]) with _ | entry
            · simp [hrest, Except.bind]
            · cases entry with
              | link target => exact absurd hentry (hlink target)
              | directory => simp [hrest, ih]
              | file => simp [hrest, Except.bind]
              | program => simp [hrest, Except.bind]

/-- A path leads to a place or nowhere, whatever it is resolved for. -/
theorem resolve_cases (hlinks : tree.LinkFree) (h : EndsIn path name) :
    (∃ fault, tree.placeOf path = .error fault ∧ ∀ purpose, tree.resolve purpose path = .error fault) ∨
    ∃ parent, tree.placeOf path = .ok (parent ++ [name]) ∧
      ∀ purpose, tree.resolve purpose path = .ok (.name parent name false) := by
  obtain ⟨before, hnames⟩ := List.getLast?_eq_some_iff.mp h.getLast?_names
  have hresolve : ∀ purpose, tree.resolve purpose path =
      if '\x00' ∈ path then .error .nulInPath
      else if path = [] then .error .notFound
      else if longestPath < Text.byteLength path then .error .nameTooLong
      else (tree.descend ((Route.ofPath path).start tree.workingDirectory) before).bind fun parent =>
        (placeIn parent name).map fun _ => .name parent name false := by
    intro purpose
    rw [resolve, travel_eq_walk, hnames, walk_append hlinks (List.cons_ne_nil _ _), h.slash_eq]
    have hlast : ∀ parent, tree.walk purpose (tree.pursue purpose mostLinks) parent [name] false =
        (placeIn parent name).map fun _ => .name parent name false := by
      intro parent
      rw [placeIn]
      split
      next hlength =>
        rw [walk, if_neg h.isPlain.ne_dot, if_neg h.isPlain.ne_up, if_neg (by simp), if_pos hlength]
        rfl
      next hlength =>
        exact walk_last ⟨h.isPlain.ne_dot, h.isPlain.ne_up, Nat.le_of_not_lt hlength⟩ (fun _ => rfl) (hlinks _)
    simp only [hlast]
  simp only [hresolve]
  rw [placeOf, hnames, List.dropLast_concat, List.getLast?_concat, Option.getD_some]
  split
  · exact Or.inl ⟨_, rfl, fun _ => rfl⟩
  · split
    · exact Or.inl ⟨_, rfl, fun _ => rfl⟩
    · split
      · exact Or.inl ⟨_, rfl, fun _ => rfl⟩
      · cases tree.descend ((Route.ofPath path).start tree.workingDirectory) before with
        | error fault => exact Or.inl ⟨fault, rfl, fun _ => rfl⟩
        | ok parent =>
            simp only [Except.bind, placeIn]
            split
            · exact Or.inl ⟨_, rfl, fun _ => rfl⟩
            · exact Or.inr ⟨parent, rfl, fun _ => rfl⟩

theorem placeOf_of_resolve (hlinks : tree.LinkFree) (h : EndsIn path name) {parent : Location} {last : Text}
    (hresolve : tree.resolve purpose path = .ok (.name parent last slash)) :
    tree.placeOf path = .ok (parent ++ [last]) := by
  rcases resolve_cases hlinks h with ⟨fault, -, herror⟩ | ⟨parent', hplace, hspot⟩
  · exact nomatch (herror purpose).symm.trans hresolve
  · obtain ⟨rfl, rfl, -⟩ := Spot.name.inj (Except.ok.inj ((hspot purpose).symm.trans hresolve))
    exact hplace

/-! ### Changes -/

theorem createDirectory_eq (hlinks : tree.LinkFree) (h : EndsIn path name) : tree.createDirectory path =
    (tree.placeOf path).bind fun place =>
      match tree.at? place with
      | some _ => .error .fileExists
      | none => .ok (tree.set place .directory) := by
  rw [createDirectory]
  rcases resolve_cases hlinks h with ⟨fault, hplace, hresolve⟩ | ⟨parent, hplace, hresolve⟩
  · rw [hplace, hresolve]
    rfl
  · rw [hplace, hresolve]
    rfl

theorem writeFile_eq (hlinks : tree.LinkFree) (h : EndsIn path name) (content : Text) :
    tree.writeFile path content = (tree.placeOf path).bind fun place =>
      match tree.at? place with
      | some .directory => .error .isDirectory
      | some .program => .error .programRuns
      | _ => .ok (tree.set place (.file content)) := by
  rw [writeFile, replace]
  rcases resolve_cases hlinks h with ⟨fault, hplace, hresolve⟩ | ⟨parent, hplace, hresolve⟩
  · rw [hplace, hresolve]
    rfl
  · rw [hplace, hresolve]
    rfl

theorem isDirectory_iff_placeOf (hlinks : tree.LinkFree) (h : EndsIn path name) : tree.isDirectory path = true ↔
    ∃ place, tree.placeOf path = .ok place ∧ tree.at? place = some .directory := by
  rw [isDirectory, FileTree.locate?]
  rcases resolve_cases hlinks h with ⟨fault, hplace, hresolve⟩ | ⟨parent, hplace, hresolve⟩
  · simp [hplace, hresolve]
  · rw [hplace, hresolve]
    cases hentry : tree.at? (parent ++ [name]) with
    | none => simp [hentry]
    | some entry => simp [hentry]

/-- A directory is not made for want of a way or because something stands at its place. -/
theorem cases_of_createDirectory (hlinks : tree.LinkFree) (h : EndsIn path name) {fault : Fault}
    (hcreate : tree.createDirectory path = .error fault) :
    (tree.placeOf path = .error fault ∧ fault ≠ .fileExists) ∨
    (fault = .fileExists ∧ ∃ place entry, tree.placeOf path = .ok place ∧ tree.at? place = some entry) := by
  rw [createDirectory_eq hlinks h] at hcreate
  cases hplace : tree.placeOf path with
  | error fault' =>
      rw [hplace] at hcreate
      obtain rfl := Except.error.inj hcreate
      exact Or.inl ⟨rfl, fun heq => placeOf_ne_fileExists path (heq ▸ hplace)⟩
  | ok place =>
      rw [hplace, Except.bind] at hcreate
      split at hcreate
      next entry hentry => exact Or.inr ⟨(Except.error.inj hcreate).symm, place, entry, rfl, hentry⟩
      · exact nomatch hcreate

end Scaffold.FileTree
