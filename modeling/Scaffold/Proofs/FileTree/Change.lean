import Scaffold.Proofs.FileTree.Growth

/-! What a change does. A directory is made at a free location and a file written at one that is free or has a
file; nothing else is touched. The tree grows by it, and its path leads to the location in every tree that
comes after. -/

namespace Scaffold.FileTree

variable {tree later : FileTree} {path content : Text} {place : Location}

/-- The path ends in a name for a new directory, and this is its location. -/
def Makes (tree : FileTree) (path : Text) (place : Location) : Prop :=
  ∃ parent name slash, place = parent ++ [name] ∧ tree.resolve .makeDirectory path = .ok (.name parent name slash)

/-- The path ends in a name for a file, and this is its location. -/
def Writes (tree : FileTree) (path : Text) (place : Location) : Prop :=
  ∃ parent name, place = parent ++ [name] ∧ tree.resolve .writeFile path = .ok (.name parent name false)

/-- Nothing stands there, or a file. -/
def IsWritable (found : Option Entry) : Prop := found = none ∨ ∃ old, found = some (.file old)

/-! ### What is found -/

theorem locate?_eq_some_iff : tree.locate? path = some place ↔
    tree.resolve .inspect path = .ok (.directory place) ∨
    ∃ parent name slash, tree.resolve .inspect path = .ok (.name parent name slash) ∧ place = parent ++ [name] ∧
      ∃ entry, tree.at? place = some entry ∧ (slash = true → entry = .directory) := by
  rw [FileTree.locate?]
  constructor
  · intro h
    split at h
    · exact nomatch h
    next hresolve => exact Or.inl (Option.some.inj h ▸ hresolve)
    next parent name slash hresolve =>
      split at h
      · exact nomatch h
      next entry hentry =>
        split at h
        · exact nomatch h
        next hslash =>
          obtain rfl := Option.some.inj h
          refine Or.inr ⟨parent, name, slash, hresolve, rfl, entry, hentry, fun htrue => ?_⟩
          rw [htrue, Bool.true_and, decide_eq_true_eq] at hslash
          exact Decidable.not_not.mp hslash
  · rintro (hresolve | ⟨parent, name, slash, hresolve, rfl, entry, hentry, hslash⟩)
    · rw [hresolve]
    · rw [hresolve]
      have hkept : ¬(slash && entry ≠ .directory) = true := by
        rw [Bool.and_eq_true, decide_eq_true_eq]
        rintro ⟨htrue, hne⟩
        exact hne (hslash htrue)
      simp only [hentry, if_neg hkept]

theorem Grows.locate? (hgrows : tree.Grows later) (h : tree.locate? path = some place) :
    later.locate? path = some place := by
  rw [locate?_eq_some_iff] at h ⊢
  rcases h with hresolve | ⟨parent, name, slash, hresolve, rfl, entry, hentry, hslash⟩
  · exact Or.inl (hgrows.resolve hresolve)
  · have hgrown := hgrows.grown (parent ++ [name])
    obtain ⟨entry', hentry', hkept⟩ := (hentry ▸ hgrown).exists_of_some
    exact Or.inr ⟨parent, name, slash, hgrows.resolve hresolve, rfl, entry', hentry', fun h => hkept (hslash h)⟩

theorem isDirectory_iff : tree.isDirectory path = true ↔
    ∃ place, tree.locate? path = some place ∧ tree.at? place = some .directory := by
  rw [isDirectory]
  cases tree.locate? path with
  | none => simp
  | some place => simp

theorem Grows.isDirectory (hgrows : tree.Grows later) (h : tree.isDirectory path = true) :
    later.isDirectory path = true := by
  rw [isDirectory_iff] at h ⊢
  obtain ⟨place, hlocate, hentry⟩ := h
  have hgrown := hgrows.grown place
  exact ⟨place, hgrows.locate? hlocate, Grown.directory (hentry ▸ hgrown)⟩

/-! ### New directories -/

theorem createDirectory_eq_ok_iff : tree.createDirectory path = .ok later ↔
    ∃ place, tree.Makes path place ∧ tree.at? place = none ∧ later = tree.set place .directory := by
  rw [createDirectory]
  constructor
  · intro h
    split at h
    · exact nomatch h
    · exact nomatch h
    next parent name slash hresolve =>
      split at h
      · exact nomatch h
      next hfree => exact ⟨_, ⟨parent, name, slash, rfl, hresolve⟩, hfree, (Except.ok.inj h).symm⟩
  · rintro ⟨place, ⟨parent, name, slash, rfl, hresolve⟩, hfree, rfl⟩
    rw [hresolve]
    simp only [hfree]

theorem Makes.ne_nil (h : tree.Makes path place) : place ≠ [] := by
  obtain ⟨parent, name, slash, rfl, -⟩ := h
  exact List.append_ne_nil_of_right_ne_nil _ (List.cons_ne_nil _ _)

theorem Makes.mono (hgrows : tree.Grows later) (h : tree.Makes path place) : later.Makes path place := by
  obtain ⟨parent, name, slash, rfl, hresolve⟩ := h
  exact ⟨parent, name, slash, rfl, hgrows.resolve hresolve⟩

theorem Makes.grows (hfree : tree.at? place = none) : tree.Grows (tree.set place .directory) :=
  grows_set (hfree ▸ .newDirectory)

/-- A directory that stands where it was to be made is found there. -/
theorem Makes.locate? (h : tree.Makes path place) (hentry : tree.at? place = some .directory) :
    tree.locate? path = some place := by
  obtain ⟨parent, name, slash, rfl, hresolve⟩ := h
  obtain ⟨htaken, hleads⟩ := resolve_eq_ok_iff.mp hresolve
  have hinspect : tree.resolve .inspect path = .ok (.name parent name slash) := by
    refine resolve_eq_ok_iff.mpr ⟨htaken, hleads.inspect_of_makeDirectory fun parent' name' slash' heq target => ?_⟩
    obtain ⟨rfl, rfl, rfl⟩ := Spot.name.inj heq
    rw [hentry]
    exact fun h => nomatch h
  exact locate?_eq_some_iff.mpr (Or.inr ⟨parent, name, slash, hinspect, rfl, _, hentry, fun _ => rfl⟩)

/-- Where a directory is found none can be made. -/
theorem createDirectory_of_isDirectory (h : tree.isDirectory path = true) :
    tree.createDirectory path = .error .fileExists := by
  obtain ⟨place, hlocate, hentry⟩ := isDirectory_iff.mp h
  have hinspect : ∃ spot, tree.resolve .inspect path = .ok spot ∧
      ∀ parent name slash, spot = .name parent name slash → tree.at? (parent ++ [name]) ≠ none := by
    rcases locate?_eq_some_iff.mp hlocate with hresolve | ⟨parent, name, slash, hresolve, rfl, -⟩
    · exact ⟨_, hresolve, fun _ _ _ h => nomatch h⟩
    · refine ⟨_, hresolve, fun parent' name' slash' heq => ?_⟩
      obtain ⟨rfl, rfl, rfl⟩ := Spot.name.inj heq
      rw [hentry]
      exact Option.some_ne_none _
  obtain ⟨spot, hresolve, htaken⟩ := hinspect
  obtain ⟨hpath, hleads⟩ := resolve_eq_ok_iff.mp hresolve
  obtain ⟨spot', hleads', hspot⟩ := hleads.makeDirectory_of_inspect
  rw [createDirectory, resolve_eq_ok_iff.mpr ⟨hpath, hleads'⟩]
  rcases hspot with rfl | ⟨parent, name, slash, target, rfl, hlink⟩
  · cases spot' with
    | directory place => rfl
    | name parent name slash =>
        obtain ⟨entry, hat⟩ := Option.ne_none_iff_exists'.mp (htaken parent name slash rfl)
        simp only [hat]
  · simp only [hlink]

/-! ### Files -/

theorem writeFile_eq_ok_iff : tree.writeFile path content = .ok later ↔
    ∃ place, tree.Writes path place ∧ IsWritable (tree.at? place) ∧ later = tree.set place (.file content) := by
  rw [writeFile, replace]
  constructor
  · intro h
    split at h
    · exact nomatch h
    · exact nomatch h
    next parent name slash hresolve =>
      obtain ⟨rfl, hlink⟩ := (resolve_eq_ok_iff.mp hresolve).2.writeFile_last
      refine ⟨parent ++ [name], ⟨parent, name, rfl, hresolve⟩, ?_⟩
      split at h
      · exact nomatch h
      · exact nomatch h
      next hdirectory hprogram =>
        refine ⟨?_, (Except.ok.inj h).symm⟩
        cases hentry : tree.at? (parent ++ [name]) with
        | none => exact Or.inl rfl
        | some entry =>
            cases entry with
            | directory => exact absurd hentry hdirectory
            | file old => exact Or.inr ⟨old, rfl⟩
            | program => exact absurd hentry hprogram
            | link target => exact absurd hentry (hlink target)
  · rintro ⟨place, ⟨parent, name, rfl, hresolve⟩, hwritable, rfl⟩
    rw [hresolve]
    rcases hwritable with hfree | ⟨old, hfile⟩
    · simp only [hfree]
    · simp only [hfile]

theorem Writes.ne_nil (h : tree.Writes path place) : place ≠ [] := by
  obtain ⟨parent, name, rfl, -⟩ := h
  exact List.append_ne_nil_of_right_ne_nil _ (List.cons_ne_nil _ _)

theorem Writes.mono (hgrows : tree.Grows later) (h : tree.Writes path place) : later.Writes path place := by
  obtain ⟨parent, name, rfl, hresolve⟩ := h
  exact ⟨parent, name, rfl, hgrows.resolve hresolve⟩

theorem IsWritable.grows (h : IsWritable (tree.at? place)) (content : Text) :
    tree.Grows (tree.set place (.file content)) := by
  refine grows_set ?_
  rcases h with hfree | ⟨old, hfile⟩
  · exact hfree ▸ .newFile content
  · exact hfile ▸ .rewritten old content

/-- What stands where a file was to be written is found there. -/
theorem Writes.locate? (h : tree.Writes path place) (hentry : tree.at? place ≠ none) :
    tree.locate? path = some place := by
  obtain ⟨parent, name, rfl, hresolve⟩ := h
  obtain ⟨htaken, hleads⟩ := resolve_eq_ok_iff.mp hresolve
  obtain ⟨entry, hat⟩ := Option.ne_none_iff_exists'.mp hentry
  exact locate?_eq_some_iff.mpr (Or.inr ⟨parent, name, false,
    resolve_eq_ok_iff.mpr ⟨htaken, hleads.inspect_of_writeFile⟩, rfl, entry, hat, fun h => nomatch h⟩)

end Scaffold.FileTree
