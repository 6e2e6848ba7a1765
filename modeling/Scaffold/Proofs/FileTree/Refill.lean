import Scaffold.Proofs.FileTree.Inside

/-! Trees that are filled with files. Writing files makes no directory and no link, so that every path leads
where it led before and no file that could be written is in the way of another: whether a file can be written
does not depend on those that were written ahead of it. -/

namespace Scaffold.FileTree

variable {tree middle later : FileTree} {purpose : Purpose} {links : Nat} {here place : Location}
  {names : List Text} {slash : Bool} {spot : Spot} {path content : Text}

/-- The other tree is this one after further files were written: it has no further directory. -/
structure Refills (tree later : FileTree) : Prop where
  grows : tree.Grows later
  directory : ∀ place, later.at? place = some .directory → tree.at? place = some .directory

namespace Refills

theorem refl (tree : FileTree) : tree.Refills tree := ⟨.refl tree, fun _ h => h⟩

theorem trans (h : tree.Refills middle) (h' : middle.Refills later) : tree.Refills later :=
  ⟨h.grows.trans h'.grows, fun place hplace => h.directory place (h'.directory place hplace)⟩

theorem at?_eq_directory_iff (h : tree.Refills later) (place : Location) :
    later.at? place = some .directory ↔ tree.at? place = some .directory := by
  refine ⟨h.directory place, fun hplace => ?_⟩
  have hgrown := h.grows.grown place
  rw [hplace] at hgrown
  exact hgrown.directory

theorem at?_eq_link_iff (h : tree.Refills later) (place : Location) (target : Text) :
    later.at? place = some (.link target) ↔ tree.at? place = some (.link target) := by
  have hgrown := h.grows.grown place
  constructor
  · intro hplace
    rw [hplace] at hgrown
    exact hgrown.of_link
  · intro hplace
    rw [hplace] at hgrown
    exact hgrown.link

theorem at?_eq_program_iff (h : tree.Refills later) (place : Location) :
    later.at? place = some .program ↔ tree.at? place = some .program := by
  have hgrown := h.grows.grown place
  constructor
  · intro hplace
    rw [hplace] at hgrown
    exact hgrown.of_program
  · intro hplace
    rw [hplace] at hgrown
    exact hgrown.program

theorem isWritable_iff (h : tree.Refills later) (place : Location) :
    IsWritable (later.at? place) ↔ IsWritable (tree.at? place) := by
  -- What is no directory, no link and no program can be written, and of these there are the same.
  have hcases : ∀ found : Option Entry, IsWritable found ↔
      found ≠ some .directory ∧ found ≠ some .program ∧ ∀ target, found ≠ some (.link target) := by
    intro found
    cases found with
    | none => simp [IsWritable]
    | some entry => cases entry <;> simp [IsWritable]
  simp only [hcases, Ne, h.at?_eq_directory_iff, h.at?_eq_program_iff, h.at?_eq_link_iff]

/-! ### Where paths lead -/

theorem leads (h : tree.Refills later) (hleads : Leads later purpose links here names slash spot) :
    Leads tree purpose links here names slash spot := by
  induction hleads with
  | stop => exact .stop
  | dot _ ih => exact .dot ih
  | up _ ih => exact .up ih
  | last hname hslash hlink =>
      exact .last hname hslash fun target htarget => hlink target ((h.at?_eq_link_iff _ target).mpr htarget)
  | enter hname hrest hentry _ ih => exact .enter hname hrest (h.directory _ hentry) ih
  | follow hname hslash hpurpose hentry _ ih =>
      exact .follow hname hslash hpurpose ((h.at?_eq_link_iff _ _).mp hentry) ih

theorem resolve_eq_ok_iff (h : tree.Refills later) :
    later.resolve purpose path = .ok spot ↔ tree.resolve purpose path = .ok spot := by
  refine ⟨fun hlater => ?_, h.grows.resolve⟩
  rw [FileTree.resolve_eq_ok_iff, h.grows.workingDirectory_eq] at hlater
  exact FileTree.resolve_eq_ok_iff.mpr ⟨hlater.1, h.leads hlater.2⟩

/-- What is found where nothing has changed was found there before. -/
theorem locate? (h : tree.Refills later) (hlocate : later.locate? path = some place)
    (hsame : later.at? place = tree.at? place) : tree.locate? path = some place := by
  rw [locate?_eq_some_iff] at hlocate ⊢
  rcases hlocate with hresolve | ⟨parent, name, slash, hresolve, rfl, hentry⟩
  · exact Or.inl (h.resolve_eq_ok_iff.mp hresolve)
  · exact Or.inr ⟨parent, name, slash, h.resolve_eq_ok_iff.mp hresolve, rfl, hsame ▸ hentry⟩

theorem isDirectory_iff (h : tree.Refills later) : later.isDirectory path = true ↔ tree.isDirectory path = true := by
  refine ⟨fun hlater => ?_, h.grows.isDirectory⟩
  obtain ⟨place, hlocate, hentry⟩ := FileTree.isDirectory_iff.mp hlater
  have hbefore := h.directory place hentry
  exact FileTree.isDirectory_iff.mpr ⟨place, h.locate? hlocate (hentry.trans hbefore.symm), hbefore⟩

theorem isRunning_iff (h : tree.Refills later) : later.isRunning path = true ↔ tree.isRunning path = true := by
  refine ⟨fun hlater => ?_, h.grows.isRunning⟩
  obtain ⟨place, hlocate, hentry⟩ := FileTree.isRunning_iff.mp hlater
  have hbefore := (h.at?_eq_program_iff place).mp hentry
  exact FileTree.isRunning_iff.mpr ⟨place, h.locate? hlocate (hentry.trans hbefore.symm), hbefore⟩

theorem isLink_iff (h : tree.Refills later) : later.isLink path = true ↔ tree.isLink path = true := by
  simp only [FileTree.isLink_iff, h.resolve_eq_ok_iff, h.at?_eq_link_iff]

/-! ### Which files can be written -/

theorem writeFile_ok_iff (h : tree.Refills later) :
    (∃ next, later.writeFile path content = .ok next) ↔ ∃ next, tree.writeFile path content = .ok next := by
  simp only [writeFile_eq_ok_iff, Writes, h.resolve_eq_ok_iff]
  constructor
  · rintro ⟨next, place, hplace, hwritable, -⟩
    exact ⟨_, place, hplace, (h.isWritable_iff place).mp hwritable, rfl⟩
  · rintro ⟨next, place, hplace, hwritable, -⟩
    exact ⟨_, place, hplace, (h.isWritable_iff place).mpr hwritable, rfl⟩

end Refills

theorem refills_of_writeFile (h : tree.writeFile path content = .ok later) : tree.Refills later := by
  obtain ⟨place, hwrites, hwritable, rfl⟩ := writeFile_eq_ok_iff.mp h
  refine ⟨hwritable.grows content, fun other hother => ?_⟩
  by_cases heq : other = place
  · subst heq
    rw [at?_set_self tree hwrites.ne_nil] at hother
    cases hother
  · rwa [at?_set_of_ne tree heq] at hother

end Scaffold.FileTree
