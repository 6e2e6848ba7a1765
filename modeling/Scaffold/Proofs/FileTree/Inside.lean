import Scaffold.Proofs.FileTree.Below
import Scaffold.Proofs.Path.Parent

/-! Names in directories that paths lead to. A path that ends in a name leads to this name in the directory that
the rest of it leads to, links on the way included; so a file can be written there exactly if the rest leads to
a directory and nothing at the name is in the way. -/

namespace Scaffold

theorem Text.byteLength_append (s t : Text) :
    Text.byteLength (s ++ t) = Text.byteLength s + Text.byteLength t := by
  unfold Text.byteLength
  induction s with
  | nil => simp
  | cons c s ih => simp [ih, Nat.add_assoc]

/-- The place of what a path leads to. -/
def Spot.place : Spot → Location
  | .directory place => place
  | .name parent last _ => parent ++ [last]

namespace FileTree

variable {tree : FileTree} {purpose : Purpose} {links : Nat} {here : Location} {names : List Text}
  {name path : Text} {slash : Bool} {spot : Spot}

/-- The working directory is there, and whatever stands in the tree stands in a directory. -/
structure IsClosed (tree : FileTree) : Prop where
  workingDirectory : tree.at? tree.workingDirectory = some .directory
  parent : ∀ place name, tree.at? (place ++ [name]) ≠ none → tree.at? place = some .directory

/-- Whether what stands at the end of a path is itself a link. -/
def isLink (tree : FileTree) (path : Text) : Bool :=
  match tree.resolve .makeDirectory path with
  | .ok (.name parent name _) =>
    match tree.at? (parent ++ [name]) with
    | some (.link _) => true
    | _ => false
  | _ => false

/-- Whether a path leads to the file of a running program. -/
def isRunning (tree : FileTree) (path : Text) : Bool :=
  match tree.locate? path with
  | some place => tree.at? place == some .program
  | none => false

theorem isLink_iff : tree.isLink path = true ↔ ∃ parent name slash target,
    tree.resolve .makeDirectory path = .ok (.name parent name slash) ∧
      tree.at? (parent ++ [name]) = some (.link target) := by
  rw [isLink]
  constructor
  · intro h
    split at h
    next parent name slash hresolve =>
      split at h
      next target hentry => exact ⟨parent, name, slash, target, hresolve, hentry⟩
      · cases h
    · cases h
  · rintro ⟨parent, name, slash, target, hresolve, hentry⟩
    rw [hresolve]
    simp only [hentry]

theorem isRunning_iff : tree.isRunning path = true ↔
    ∃ place, tree.locate? path = some place ∧ tree.at? place = some .program := by
  rw [isRunning]
  cases tree.locate? path with
  | none => simp
  | some place => simp

theorem Grows.isRunning {later : FileTree} (hgrows : tree.Grows later) (h : tree.isRunning path = true) :
    later.isRunning path = true := by
  rw [isRunning_iff] at h ⊢
  obtain ⟨place, hlocate, hentry⟩ := h
  have hgrown := hgrows.grown place
  rw [hentry] at hgrown
  exact ⟨place, hgrows.locate? hlocate, hgrown.program⟩

theorem isLink_of_linkFree (hlinks : tree.LinkFree) (path : Text) : ¬tree.isLink path := by
  rw [isLink_iff]
  rintro ⟨parent, name, slash, target, -, hentry⟩
  exact hlinks _ target hentry

theorem isClosed_of_entries (hhere : tree.at? tree.workingDirectory = some .directory)
    (h : ∀ entry ∈ tree.entries, tree.at? entry.1.dropLast = some .directory) : tree.IsClosed := by
  refine ⟨hhere, fun place name hentry => ?_⟩
  obtain ⟨entry, hat⟩ := Option.ne_none_iff_exists'.mp hentry
  rw [at?, if_neg (by simp)] at hat
  obtain ⟨before, after, hentries, -⟩ := List.lookup_eq_some_iff.mp hat
  have hparent := h (place ++ [name], entry) (hentries ▸ List.mem_append_right _ List.mem_cons_self)
  rwa [List.dropLast_concat] at hparent

theorem IsClosed.dropLast (h : tree.IsClosed) (hhere : tree.at? here = some .directory) :
    tree.at? here.dropLast = some .directory := by
  by_cases hroot : here = []
  · rw [hroot]
    rfl
  · apply h.parent here.dropLast (here.getLast hroot)
    rw [List.dropLast_concat_getLast hroot, hhere]
    exact Option.some_ne_none _

theorem at?_start (hhere : tree.at? here = some .directory) (route : Route) :
    tree.at? (route.start here) = some .directory := by
  unfold Route.start
  split
  · rfl
  · exact hhere

theorem locate?_of_resolve (h : tree.resolve .inspect path = .ok spot)
    (hentry : tree.at? spot.place = some .directory) : tree.locate? path = some spot.place := by
  rw [locate?_eq_some_iff]
  cases spot with
  | directory place => exact Or.inl h
  | name parent name slash => exact Or.inr ⟨parent, name, slash, h, rfl, .directory, hentry, fun _ => rfl⟩

theorem isDirectory_iff_resolve : tree.isDirectory path = true ↔
    ∃ spot, tree.resolve .inspect path = .ok spot ∧ tree.at? spot.place = some .directory := by
  simp only [isDirectory_iff]
  constructor
  · rintro ⟨place, hlocate, hentry⟩
    rcases locate?_eq_some_iff.mp hlocate with hresolve | ⟨parent, name, slash, hresolve, rfl, -⟩
    · exact ⟨_, hresolve, hentry⟩
    · exact ⟨_, hresolve, hentry⟩
  · rintro ⟨spot, hresolve, hentry⟩
    exact ⟨spot.place, locate?_of_resolve hresolve hentry, hentry⟩

/-! ### A name behind a way -/

theorem followedBy_concat (route : Route) (rest : List Text) (name : Text) (slash : Bool) :
    (route.followedBy (rest ++ [name]) slash).names = (route.followedBy rest slash).names ++ [name] ∧
      (route.followedBy (rest ++ [name]) slash).slash = slash := by
  simp [Route.followedBy]

/-- One more name behind a way to a directory is looked for in this directory. -/
theorem Leads.walk_concat (h : Leads tree .inspect links here names slash spot)
    (hdirectory : tree.at? spot.place = some .directory) (purpose : Purpose) (name : Text) :
    ∃ fewer, tree.walk purpose (tree.pursue purpose links) here (names ++ [name]) false =
      tree.walk purpose (tree.pursue purpose fewer) spot.place [name] false := by
  have hmore : ∀ rest : List Text, rest ++ [name] ≠ [] := by simp
  induction h with
  | stop => exact ⟨_, rfl⟩
  | dot _ ih =>
      rw [List.cons_append, walk_dot]
      exact ih hdirectory
  | up _ ih =>
      rw [List.cons_append, walk_up]
      exact ih hdirectory
  | @last links here last slash hname _ _ =>
      have hentry : tree.at? (here ++ [last]) = some .directory := hdirectory
      refine ⟨links, ?_⟩
      rw [List.singleton_append, walk_of_not_link hname (List.cons_ne_nil _ _) (by simp [hentry])]
      simp only [hentry, Spot.place]
  | enter hname _ hentry _ ih =>
      rw [List.cons_append, walk_of_not_link hname (hmore _) (by simp [hentry])]
      simp only [hentry]
      exact ih hdirectory
  | @follow links here first target rest slash spot hname _ _ hentry _ ih =>
      obtain ⟨hnames, hslash⟩ := followedBy_concat (Route.ofPath target) rest name false
      have hnames' : ((Route.ofPath target).followedBy rest false).names =
          ((Route.ofPath target).followedBy rest slash).names := rfl
      rw [List.cons_append, walk_of_link hname (fun _ h => absurd h (hmore _)) hentry,
        if_neg (by simp), pursue, travel_eq_walk, hnames, hslash, hnames']
      exact ih hdirectory

theorem walk_single {follow : Location → Route → Except Fault Spot} (hplain : IsPlain name)
    (hlink : ∀ target, tree.at? (here ++ [name]) = some (.link target) → purpose = .makeDirectory) :
    tree.walk purpose follow here [name] false =
      if longestName < Text.byteLength name then .error .nameTooLong else .ok (.name here name false) := by
  rw [walk, if_neg hplain.ne_dot, if_neg hplain.ne_up, if_neg (by simp)]
  split
  · rfl
  · split
    next target hentry => simp [hlink target hentry]
    next => simp

/-- A way that ends in a name leads to it in a directory, to which the way ahead of the name leads. -/
theorem Leads.directory_of_concat (hclosed : tree.IsClosed) (hplain : IsPlain name)
    (h : Leads tree .makeDirectory links here (names ++ [name]) slash spot)
    (hhere : tree.at? here = some .directory) (slash' : Bool) :
    ∃ inner, Leads tree .inspect links here names slash' inner ∧ tree.at? inner.place = some .directory ∧
      spot = .name inner.place name slash := by
  generalize hall : names ++ [name] = all at h
  induction h generalizing names slash' with
  | stop => simp at hall
  | @dot _ _ rest _ _ _ ih =>
      cases names with
      | nil => exact absurd (List.cons.inj hall).1 hplain.ne_dot
      | cons first names =>
          obtain ⟨rfl, hrest⟩ := List.cons.inj hall
          obtain ⟨inner, hleads, hinner⟩ := ih hhere slash' hrest
          exact ⟨inner, .dot hleads, hinner⟩
  | @up _ _ rest _ _ _ ih =>
      cases names with
      | nil => exact absurd (List.cons.inj hall).1 hplain.ne_up
      | cons first names =>
          obtain ⟨rfl, hrest⟩ := List.cons.inj hall
          obtain ⟨inner, hleads, hinner⟩ := ih (hclosed.dropLast hhere) slash' hrest
          exact ⟨inner, .up hleads, hinner⟩
  | @last _ here last _ _ _ _ =>
      obtain ⟨rfl, rfl⟩ : names = [] ∧ name = last := by
        cases names with
        | nil => exact ⟨rfl, (List.cons.inj hall).1⟩
        | cons first names => simp at hall
      exact ⟨.directory here, .stop, hhere, rfl⟩
  | @enter _ here first rest _ _ hname hrest hentry _ ih =>
      cases names with
      | nil => exact absurd (List.cons.inj hall).2.symm hrest
      | cons first' names =>
          obtain ⟨rfl, hnames⟩ := List.cons.inj hall
          obtain ⟨inner, hleads, hinner⟩ := ih hentry slash' hnames
          by_cases hlast : names = []
          · -- The directory that is entered is itself the last on the way.
            subst hlast
            cases hleads
            exact ⟨.name here first' slash', .last hname nofun (by simp [hentry]), hinner⟩
          · exact ⟨inner, .enter hname hlast hentry hleads, hinner⟩
  | @follow _ here first target rest slash _ hname _ hpurpose hentry _ ih =>
      cases names with
      | nil => exact absurd (List.cons.inj hall).2.symm (hpurpose rfl)
      | cons first' names =>
          rw [List.cons_append] at hall
          obtain ⟨rfl, rfl⟩ := List.cons.inj hall
          obtain ⟨hnames, hslash⟩ := followedBy_concat (Route.ofPath target) names name slash
          obtain ⟨inner, hleads, hdirectory, hspot⟩ := ih (at?_start hhere _) _ hnames.symm
          refine ⟨inner, .follow hname nofun nofun hentry hleads, hdirectory, ?_⟩
          rw [hspot, hslash]

/-! ### A file in a directory -/

variable {directory file content : Text} {place : Location} {later : FileTree} {fault : Fault}

/-- The path of the file in the directory and the name of the file are no longer than the system allows. -/
structure Fits (directory file : Text) : Prop where
  path : Text.byteLength (Path.join directory file) ≤ longestPath
  name : Text.byteLength file ≤ longestName

theorem ofPath_join_name (hfile : Path.IsFileName file) (directory : Text) :
    Route.ofPath (Path.join directory file) =
      ⟨Path.isAbsolute directory, (Route.ofPath directory).names ++ [file], false⟩ :=
  (hfile.spells.isBelow directory).route_eq

theorem isPlain_of_isFileName (hfile : Path.IsFileName file) : IsPlain file := ⟨hfile.ne_dot, hfile.ne_up⟩

/-- A path goes on behind the directory to which its file is joined. -/
theorem exists_join_eq_append (hfile : Path.IsFileName file) (directory : Text) :
    ∃ between, (between = [] ∨ between = ['/']) ∧ Path.join directory file = directory ++ between ++ file := by
  rw [Path.join, hfile.isAbsolute_self, if_neg Bool.false_ne_true]
  split
  · exact ⟨[], Or.inl rfl, by simp⟩
  · exact ⟨['/'], Or.inr rfl, by simp⟩

theorem byteLength_le_join (hfile : Path.IsFileName file) (directory : Text) :
    Text.byteLength directory ≤ Text.byteLength (Path.join directory file) := by
  obtain ⟨between, -, hjoin⟩ := exists_join_eq_append hfile directory
  rw [hjoin, Text.byteLength_append, Text.byteLength_append]
  omega

/-- A path leads to a file in the directory to which the rest of the path leads. -/
theorem resolve_join (hfile : Path.IsFileName file) (hnul : '\x00' ∉ file)
    (hdirectory : tree.isDirectory directory = true) :
    ∃ place, tree.locate? directory = some place ∧ tree.at? place = some .directory ∧
      (¬Fits directory file → ∀ purpose, tree.resolve purpose (Path.join directory file) = .error .nameTooLong) ∧
      (Fits directory file → ∀ purpose,
        (∀ target, tree.at? (place ++ [file]) = some (.link target) → purpose = .makeDirectory) →
        tree.resolve purpose (Path.join directory file) = .ok (.name place file false)) := by
  obtain ⟨spot, hresolve, hentry⟩ := isDirectory_iff_resolve.mp hdirectory
  obtain ⟨htaken, hleads⟩ := resolve_eq_ok_iff.mp hresolve
  obtain ⟨between, hbetween, hjoin⟩ := exists_join_eq_append hfile directory
  have hnul' : '\x00' ∉ Path.join directory file := by
    rw [hjoin]
    rcases hbetween with rfl | rfl <;> simp [htaken.nul_notMem, hnul]
  have hne : Path.join directory file ≠ [] := by
    rw [hjoin]
    exact List.append_ne_nil_of_right_ne_nil _ hfile.ne_nil
  have hplain := isPlain_of_isFileName hfile
  have hwalk : ∀ purpose, ∃ fewer, tree.resolve purpose (Path.join directory file) =
      if longestPath < Text.byteLength (Path.join directory file) then .error .nameTooLong
      else tree.walk purpose (tree.pursue purpose fewer) spot.place [file] false := by
    intro purpose
    obtain ⟨fewer, hfewer⟩ := hleads.walk_concat hentry purpose file
    refine ⟨fewer, ?_⟩
    rw [resolve, if_neg hnul', if_neg hne, ofPath_join_name hfile, travel_eq_walk, ← hfewer]
    rfl
  refine ⟨spot.place, locate?_of_resolve hresolve hentry, hentry, fun hlong purpose => ?_,
    fun hfits purpose hlink => ?_⟩
  · obtain ⟨fewer, hresolve⟩ := hwalk purpose
    rw [hresolve]
    split
    · rfl
    next hpath =>
      have hname : longestName < Text.byteLength file :=
        Nat.lt_of_not_le fun h => hlong ⟨Nat.le_of_not_lt hpath, h⟩
      rw [walk, if_neg hplain.ne_dot, if_neg hplain.ne_up, if_neg (by simp), if_pos hname]
  · obtain ⟨fewer, hresolve⟩ := hwalk purpose
    rw [hresolve, if_neg (Nat.not_lt.mpr hfits.path), walk_single hplain hlink, if_neg (Nat.not_lt.mpr hfits.name)]

/-- Conversely, a path that leads to a name leads to it in the directory to which the rest of the path leads. -/
theorem exists_inner_of_resolve_join (hclosed : tree.IsClosed) (hfile : Path.IsFileName file)
    (h : tree.resolve .makeDirectory (Path.join directory file) = .ok spot) :
    ∃ inner, spot = .name inner.place file false ∧ tree.at? inner.place = some .directory ∧
      (directory ≠ [] → tree.resolve .inspect directory = .ok inner) := by
  obtain ⟨htaken, hleads⟩ := resolve_eq_ok_iff.mp h
  rw [ofPath_join_name hfile] at hleads
  obtain ⟨inner, hinner, hentry, hspot⟩ := hleads.directory_of_concat hclosed (isPlain_of_isFileName hfile)
    (at?_start hclosed.workingDirectory _) (Route.ofPath directory).slash
  refine ⟨inner, hspot, hentry, fun hne => resolve_eq_ok_iff.mpr ⟨?_, hinner⟩⟩
  obtain ⟨between, -, hjoin⟩ := exists_join_eq_append hfile directory
  refine ⟨fun hmem => htaken.nul_notMem ?_, hne, Nat.le_trans (byteLength_le_join hfile directory) htaken.length_le⟩
  rw [hjoin]
  simp [hmem]

/-- A name that is no link is found where it is, whatever it is looked for. -/
theorem resolve_join_of_not_isLink (hfile : Path.IsFileName file) (hnul : '\x00' ∉ file) (hfits : Fits directory file)
    (hdirectory : tree.isDirectory directory = true) (hlink : ¬tree.isLink (Path.join directory file)) :
    ∃ place, (∀ purpose, tree.resolve purpose (Path.join directory file) = .ok (.name place file false)) ∧
      ∀ target, tree.at? (place ++ [file]) ≠ some (.link target) := by
  obtain ⟨place, -, -, -, hresolve⟩ := resolve_join hfile hnul hdirectory
  have hmake := hresolve hfits .makeDirectory fun _ _ => rfl
  have hfree : ∀ target, tree.at? (place ++ [file]) ≠ some (.link target) :=
    fun target htarget => hlink (isLink_iff.mpr ⟨place, file, false, target, hmake, htarget⟩)
  exact ⟨place, fun purpose => hresolve hfits purpose fun target htarget => absurd htarget (hfree target), hfree⟩

theorem locate?_of_name {parent : Location} (h : tree.resolve .inspect path = .ok (.name parent name false)) :
    tree.locate? path = (tree.at? (parent ++ [name])).map fun _ => parent ++ [name] := by
  rw [FileTree.locate?, h]
  cases hentry : tree.at? (parent ++ [name]) with
  | none => simp only [hentry, Option.map_none]
  | some entry => simp [hentry]

/-! ### Writing a file in a directory -/

theorem resolve_inspect_of_writes (h : tree.Writes path place) :
    ∃ parent name, place = parent ++ [name] ∧ tree.resolve .inspect path = .ok (.name parent name false) := by
  obtain ⟨parent, name, rfl, hresolve⟩ := h
  obtain ⟨htaken, hleads⟩ := resolve_eq_ok_iff.mp hresolve
  exact ⟨parent, name, rfl, resolve_eq_ok_iff.mpr ⟨htaken, hleads.inspect_of_writeFile⟩⟩

/-- A file is written at the last name of its path, unless this is a link. -/
theorem resolve_makeDirectory_of_writes (hlink : ¬tree.isLink path) (h : tree.Writes path place) :
    ∃ parent name, place = parent ++ [name] ∧ tree.resolve .makeDirectory path = .ok (.name parent name false) := by
  obtain ⟨parent, name, rfl, hresolve⟩ := resolve_inspect_of_writes h
  obtain ⟨htaken, hleads⟩ := resolve_eq_ok_iff.mp hresolve
  obtain ⟨spot, hmake, hspot⟩ := hleads.makeDirectory_of_inspect
  have hmade := resolve_eq_ok_iff.mpr ⟨htaken, hmake⟩
  rcases hspot with rfl | ⟨parent', name', slash, target, rfl, hentry⟩
  · exact ⟨parent, name, rfl, hmade⟩
  · exact absurd (isLink_iff.mpr ⟨parent', name', slash, target, hmade, hentry⟩) hlink

/-- A file that is written in a directory has its place there. -/
theorem exists_inner_of_writes (hclosed : tree.IsClosed) (hfile : Path.IsFileName file)
    (hlink : ¬tree.isLink (Path.join directory file)) (h : tree.Writes (Path.join directory file) place) :
    ∃ inner, place = inner.place ++ [file] ∧ tree.at? inner.place = some .directory ∧
      (directory ≠ [] → tree.resolve .inspect directory = .ok inner) := by
  obtain ⟨parent, name, rfl, hmake⟩ := resolve_makeDirectory_of_writes hlink h
  obtain ⟨inner, hspot, hentry, hresolve⟩ := exists_inner_of_resolve_join hclosed hfile hmake
  obtain ⟨rfl, rfl, -⟩ := Spot.name.inj hspot
  exact ⟨inner, rfl, hentry, hresolve⟩

/-- Why a file cannot be written in a directory that is there. -/
inductive Refuses (tree : FileTree) (directory file : Text) : Fault → Prop
  | nameTooLong (h : ¬Fits directory file) : Refuses tree directory file .nameTooLong
  | isDirectory (h : tree.isDirectory (Path.join directory file)) : Refuses tree directory file .isDirectory
  | programRuns (h : tree.isRunning (Path.join directory file)) : Refuses tree directory file .programRuns

theorem Refuses.imp (h : tree.Refuses directory file fault)
    (hdirectory : tree.isDirectory (Path.join directory file) → later.isDirectory (Path.join directory file))
    (hrunning : tree.isRunning (Path.join directory file) → later.isRunning (Path.join directory file)) :
    later.Refuses directory file fault := by
  cases h with
  | nameTooLong h => exact .nameTooLong h
  | isDirectory h => exact .isDirectory (hdirectory h)
  | programRuns h => exact .programRuns (hrunning h)

/-- In a directory that is there a file is written, or refused for one of these reasons. -/
inductive WriteEnds (tree : FileTree) (directory file : Text) : Except Fault FileTree → Prop
  | written (later : FileTree) (hdirectory : ¬tree.isDirectory (Path.join directory file))
      (hrunning : ¬tree.isRunning (Path.join directory file)) : WriteEnds tree directory file (.ok later)
  | refused {fault : Fault} (h : tree.Refuses directory file fault) : WriteEnds tree directory file (.error fault)

theorem writeEnds (hfile : Path.IsFileName file) (hnul : '\x00' ∉ file)
    (hdirectory : tree.isDirectory directory = true) (hlink : ¬tree.isLink (Path.join directory file))
    (content : Text) : WriteEnds tree directory file (tree.writeFile (Path.join directory file) content) := by
  by_cases hfits : Fits directory file
  · obtain ⟨place, hresolve, hfree⟩ := resolve_join_of_not_isLink hfile hnul hfits hdirectory hlink
    have hlocate := locate?_of_name (hresolve .inspect)
    rw [writeFile, replace, hresolve]
    cases hentry : tree.at? (place ++ [file]) with
    | none =>
        simp only [hentry]
        exact .written _ (by simp [isDirectory, hlocate, hentry]) (by simp [isRunning, hlocate, hentry])
    | some entry =>
        cases entry with
        | directory =>
            simp only [hentry]
            exact .refused (.isDirectory (by simp [isDirectory, hlocate, hentry]))
        | program =>
            simp only [hentry]
            exact .refused (.programRuns (by simp [isRunning, hlocate, hentry]))
        | link target => exact absurd hentry (hfree target)
        | file old =>
            simp only [hentry]
            exact .written _ (by simp [isDirectory, hlocate, hentry]) (by simp [isRunning, hlocate, hentry])
  · obtain ⟨-, -, -, hlong, -⟩ := resolve_join hfile hnul hdirectory
    rw [writeFile, replace, hlong hfits]
    exact .refused (.nameTooLong hfits)

/-- A file can be written exactly if the rest of its path leads to a directory and the file is itself no directory
and no running program. -/
theorem writeFile_join_ok_iff (hclosed : tree.IsClosed) (hfile : Path.IsFileName file) (hnul : '\x00' ∉ file)
    (hne : directory ≠ []) (hfits : Fits directory file) (hlink : ¬tree.isLink (Path.join directory file)) :
    (∃ later, tree.writeFile (Path.join directory file) content = .ok later) ↔
      tree.isDirectory directory ∧ ¬tree.isDirectory (Path.join directory file) ∧
        ¬tree.isRunning (Path.join directory file) := by
  constructor
  · rintro ⟨later, hwrite⟩
    obtain ⟨place, hwrites, -, -⟩ := writeFile_eq_ok_iff.mp hwrite
    obtain ⟨inner, -, hentry, hresolve⟩ := exists_inner_of_writes hclosed hfile hlink hwrites
    have hdirectory := isDirectory_iff_resolve.mpr ⟨inner, hresolve hne, hentry⟩
    have hends := writeEnds hfile hnul hdirectory hlink content
    rw [hwrite] at hends
    cases hends with
    | written later hplain hruns => exact ⟨hdirectory, hplain, hruns⟩
  · rintro ⟨hdirectory, hplain, hruns⟩
    have hends := writeEnds hfile hnul hdirectory hlink content
    generalize tree.writeFile (Path.join directory file) content = answer at hends
    cases hends with
    | written later => exact ⟨later, rfl⟩
    | refused h =>
        cases h with
        | nameTooLong h => exact absurd hfits h
        | isDirectory h => exact absurd h hplain
        | programRuns h => exact absurd h hruns

/-! ### A directory in a directory -/

theorem exists_inner_of_makes (hclosed : tree.IsClosed) (hfile : Path.IsFileName file)
    (h : tree.Makes (Path.join directory file) place) :
    ∃ inner, place = inner.place ++ [file] ∧ tree.at? inner.place = some .directory ∧
      (directory ≠ [] → tree.resolve .inspect directory = .ok inner) := by
  obtain ⟨parent, name, slash, rfl, hmake⟩ := h
  obtain ⟨inner, hspot, hentry, hresolve⟩ := exists_inner_of_resolve_join hclosed hfile hmake
  obtain ⟨rfl, rfl, -⟩ := Spot.name.inj hspot
  exact ⟨inner, rfl, hentry, hresolve⟩

/-- A directory can be made exactly if the rest of its path leads to a directory and nothing is there. -/
theorem createDirectory_join_ok_iff (hclosed : tree.IsClosed) (hfile : Path.IsFileName file) (hnul : '\x00' ∉ file)
    (hne : directory ≠ []) (hfits : Fits directory file) (hlink : ¬tree.isLink (Path.join directory file)) :
    (∃ later, tree.createDirectory (Path.join directory file) = .ok later) ↔
      tree.isDirectory directory ∧ tree.locate? (Path.join directory file) = none := by
  have hthere : tree.isDirectory directory → ((∃ later, tree.createDirectory (Path.join directory file) = .ok later) ↔
      tree.locate? (Path.join directory file) = none) := by
    intro hdirectory
    obtain ⟨place, hresolve, -⟩ := resolve_join_of_not_isLink hfile hnul hfits hdirectory hlink
    rw [locate?_of_name (hresolve .inspect), createDirectory, hresolve]
    cases hentry : tree.at? (place ++ [file]) with
    | none => simp [hentry]
    | some entry => simp [hentry]
  constructor
  · rintro ⟨later, hcreate⟩
    obtain ⟨place, hmakes, -, -⟩ := createDirectory_eq_ok_iff.mp hcreate
    obtain ⟨inner, -, hentry, hresolve⟩ := exists_inner_of_makes hclosed hfile hmakes
    have hdirectory : tree.isDirectory directory := isDirectory_iff_resolve.mpr ⟨inner, hresolve hne, hentry⟩
    exact ⟨hdirectory, (hthere hdirectory).mp ⟨later, hcreate⟩⟩
  · rintro ⟨hdirectory, hnone⟩
    exact (hthere hdirectory).mpr hnone

/-- A new directory in a directory leaves the tree closed. -/
theorem IsClosed.makes (hclosed : tree.IsClosed) (hfile : Path.IsFileName file)
    (h : tree.Makes (Path.join directory file) place) (hfree : tree.at? place = none) :
    (tree.set place .directory).IsClosed := by
  have hgrows := Makes.grows hfree
  have hstays : ∀ other, tree.at? other = some .directory → (tree.set place .directory).at? other = some .directory :=
    fun other hother => Grown.directory (hother ▸ hgrows.grown other)
  refine ⟨hstays _ hclosed.workingDirectory, fun parent name hentry => hstays parent ?_⟩
  by_cases hplace : parent ++ [name] = place
  · obtain ⟨inner, hinner, hdirectory, -⟩ := exists_inner_of_makes hclosed hfile h
    obtain ⟨rfl, -⟩ := List.append_inj' (hplace.trans hinner) rfl
    exact hdirectory
  · rw [at?_set_of_ne tree hplace] at hentry
    exact hclosed.parent parent name hentry

/-- A directory that has just been made is empty. -/
theorem nothing_in_made (hclosed : tree.IsClosed) (hfile : Path.IsFileName file) (hnul : '\x00' ∉ file)
    (h : tree.Makes directory place) (hfree : tree.at? place = none) :
    (tree.set place .directory).isDirectory directory ∧
      (tree.set place .directory).locate? (Path.join directory file) = none ∧
      ¬(tree.set place .directory).isLink (Path.join directory file) := by
  have hmade := at?_set_self tree h.ne_nil .directory
  have hlocate := (h.mono (Makes.grows hfree)).locate? hmade
  have hdirectory := isDirectory_iff.mpr ⟨place, hlocate, hmade⟩
  obtain ⟨there, hthere, -, hlong, hjoin⟩ := resolve_join hfile hnul hdirectory
  obtain rfl := Option.some.inj (hlocate.symm.trans hthere)
  have hfree' : (tree.set place .directory).at? (place ++ [file]) = none := by
    have hother : place ++ [file] ≠ place := by simp
    rw [at?_set_of_ne tree hother]
    refine Decidable.byContradiction fun hentry => ?_
    rw [hclosed.parent place file hentry] at hfree
    cases hfree
  refine ⟨hdirectory, ?_⟩
  by_cases hfits : Fits directory file
  · constructor
    · rw [locate?_of_name (hjoin hfits .inspect (by simp [hfree'])), hfree', Option.map_none]
    · rw [isLink, hjoin hfits .makeDirectory fun _ _ => rfl]
      simp [hfree']
  · constructor
    · rw [FileTree.locate?, hlong hfits]
    · rw [isLink, hlong hfits]
      exact Bool.false_ne_true

end FileTree

end Scaffold
