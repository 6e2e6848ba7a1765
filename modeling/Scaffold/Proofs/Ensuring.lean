import Scaffold.Proofs.FileTree.FreeName
import Scaffold.Proofs.ReadBack
import Scaffold.Proofs.Repetition

/-! Making sure of a directory. Either the directory is there, or it is made at a free name, or the system refuses
it; only in the second case does the tree change, and then by this one directory. -/

namespace Scaffold.Layout

variable {layout : Layout} {tree later : FileTree} {path : Text}

theorem ensureDirectory_of_does {event : Event} (h : Step.Does tree (layout.directoryStep path) event later) :
    layout.ensureDirectory path tree = ⟨⟨[event], .ok (layout.target path)⟩, later⟩ := by
  rw [ensureDirectory, Step.performAll, h.perform]
  rfl

/-- The directory is made sure of by the step for it, or the step fails and leaves the tree alone. -/
theorem ensureDirectory_cases (layout : Layout) (path : Text) (tree : FileTree) :
    (∃ event later, Step.Does tree (layout.directoryStep path) event later) ∨
    (∀ event later, ¬Step.Does tree (layout.directoryStep path) event later) ∧
      ∃ fault, layout.ensureDirectory path tree = ⟨⟨[], .error (.write (layout.target path) fault)⟩, tree⟩ := by
  cases hperform : (layout.directoryStep path).perform tree with
  | ok answer => exact Or.inl ⟨answer.1, answer.2, Step.does_of_perform hperform⟩
  | error error =>
      obtain ⟨fault, rfl⟩ := Step.error_of_perform hperform
      refine Or.inr ⟨fun event later hdoes => ?_, fault, ?_⟩
      · rw [hdoes.perform] at hperform
        cases hperform
      · rw [ensureDirectory, Step.performAll, hperform]
        rfl

/-- Making sure of a directory again, where it was made sure of, changes nothing. -/
theorem ensureDirectory_again {event : Event} (h : Step.Does tree (layout.directoryStep path) event later) :
    ∃ event', layout.ensureDirectory path later = ⟨⟨[event'], .ok (layout.target path)⟩, later⟩ := by
  obtain ⟨events, hrepeat⟩ := (Step.Performed.cons h (.nil later)).repeat
  cases hrepeat with
  | cons hdoes hrest =>
      cases hrest
      exact ⟨_, ensureDirectory_of_does hdoes⟩

theorem ensureDirectory_of_isDirectory (h : tree.isDirectory (layout.target path) = true) :
    layout.ensureDirectory path tree =
      ⟨⟨[.foundDirectory (layout.target path)], .ok (layout.target path)⟩, tree⟩ :=
  ensureDirectory_of_does (.found h)

theorem ensureDirectory_of_isFreeName {place : Location} (hclosed : tree.IsClosed)
    (h : tree.IsFreeName (layout.target path) place) :
    layout.ensureDirectory path tree =
      ⟨⟨[.createdDirectory (layout.target path)], .ok (layout.target path)⟩, tree.set place .directory⟩ := by
  obtain ⟨hmakes, hnone⟩ := (FileTree.isFreeName_iff hclosed).mp h
  exact ensureDirectory_of_does (.made hmakes hnone)

/-- Where the step for a directory goes through, the directory is there or its name is free. -/
theorem there_or_free_of_does {event : Event} (hclosed : tree.IsClosed)
    (h : Step.Does tree (layout.directoryStep path) event later) :
    tree.isDirectory (layout.target path) ∨ ∃ place, tree.IsFreeName (layout.target path) place := by
  rcases Step.exists_does_directory_iff.mp ⟨event, later, h⟩ with hfound | ⟨_, hcreate⟩
  · exact Or.inl hfound
  · obtain ⟨place, hmakes, hnone, -⟩ := FileTree.createDirectory_eq_ok_iff.mp hcreate
    exact Or.inr ⟨place, (FileTree.isFreeName_iff hclosed).mpr ⟨hmakes, hnone⟩⟩

/-- A directory is made sure of exactly if its path, of whatever spelling, leads to a directory or ends in a free
name. In the one case nothing changes, in the other one empty directory is added at this name and nothing else,
no parent of it either. In all other cases the error names the path and the tree is as it was. Where it succeeded
it succeeds again, with the same path, and changes nothing any more. -/
theorem ensureDirectory_there_or_free (layout : Layout) (path : Text) {tree : FileTree} (hclosed : tree.IsClosed) :
    let target := layout.target path
    let run := layout.ensureDirectory path tree
    (run.result = .ok target ↔ tree.isDirectory target ∨ ∃ place, tree.IsFreeName target place) ∧
    (tree.isDirectory target → run.tree = tree) ∧
    (∀ place, tree.IsFreeName target place →
      run.tree.locate? target = some place ∧ run.tree.at? place = some .directory ∧
      (∀ rest, rest ≠ [] → run.tree.at? (place ++ rest) = none) ∧
      (∀ other, other ≠ place → run.tree.at? other = tree.at? other) ∧
      run.tree.workingDirectory = tree.workingDirectory) ∧
    (¬(tree.isDirectory target ∨ ∃ place, tree.IsFreeName target place) →
      ∃ fault, run.result = .error (.write target fault) ∧ run.tree = tree) ∧
    (∀ answer, run.result = .ok answer →
      (layout.ensureDirectory path run.tree).result = .ok answer ∧
      (layout.ensureDirectory path run.tree).tree = run.tree) := by
  intro target run
  have hcases := layout.ensureDirectory_cases path tree
  refine ⟨⟨fun hok => ?_, ?_⟩, fun hfound => ?_, fun place hfree => ?_, fun hneither => ?_, fun answer hok => ?_⟩
  · rcases hcases with ⟨event, later, h⟩ | ⟨-, fault, hrun⟩
    · exact there_or_free_of_does hclosed h
    · change (layout.ensureDirectory path tree).result = _ at hok
      rw [hrun] at hok
      cases hok
  · rintro (hfound | ⟨place, hfree⟩)
    · exact congrArg (·.result) (ensureDirectory_of_isDirectory hfound)
    · exact congrArg (·.result) (ensureDirectory_of_isFreeName hclosed hfree)
  · exact congrArg (·.tree) (ensureDirectory_of_isDirectory hfound)
  · obtain ⟨hmakes, hnone⟩ := (FileTree.isFreeName_iff hclosed).mp hfree
    have hentry := FileTree.at?_set_self tree hmakes.ne_nil .directory
    have hrun : run = ⟨⟨[.createdDirectory target], .ok target⟩, tree.set place .directory⟩ :=
      ensureDirectory_of_isFreeName hclosed hfree
    rw [hrun]
    refine ⟨(hmakes.mono (FileTree.Makes.grows hnone)).locate? hentry, hentry, fun rest hrest => ?_,
      fun other hother => FileTree.at?_set_of_ne tree hother _, rfl⟩
    have hbelow : place ++ rest ≠ place := by simpa using hrest
    exact (FileTree.at?_set_of_ne tree hbelow _).trans (hclosed.at?_append_eq_none hnone rest)
  · rcases hcases with ⟨event, later, h⟩ | ⟨-, fault, hrun⟩
    · exact absurd (there_or_free_of_does hclosed h) hneither
    · change ∃ fault, (layout.ensureDirectory path tree).result = _ ∧ (layout.ensureDirectory path tree).tree = _
      rw [hrun]
      exact ⟨fault, rfl, rfl⟩
  · rcases hcases with ⟨event, later, h⟩ | ⟨-, fault, hrun⟩
    · have hrun : run = ⟨⟨[event], .ok target⟩, later⟩ := ensureDirectory_of_does h
      obtain ⟨event', hagain⟩ := ensureDirectory_again h
      rw [hrun] at hok ⊢
      obtain rfl := Except.ok.inj hok
      exact ⟨by rw [hagain], by rw [hagain]⟩
    · change (layout.ensureDirectory path tree).result = _ at hok
      rw [hrun] at hok
      cases hok

/-- Through a link to a directory a new one is made, the link itself is as good as the directory, and a link that
leads nowhere is in the way. -/
theorem ensureDirectory_there_or_free_link :
    let layout : Layout := ⟨"/r"⟩
    let tree : FileTree := ⟨[(["r"], .directory), (["r", "d"], .directory), (["r", "l"], .link "d"),
      (["r", "x"], .link "gone")], []⟩
    tree.IsClosed ∧
    tree.isDirectory "/r/l" ∧ (layout.ensureDirectory "l" tree).tree = tree ∧
    tree.IsFreeName "/r/l/new/" ["r", "d", "new"] ∧
    (layout.ensureDirectory "l/new/" tree).result = .ok "/r/l/new/" ∧
    (layout.ensureDirectory "l/new/" tree).tree.at? ["r", "d", "new"] = some .directory ∧
    (layout.ensureDirectory "l/new/" (layout.ensureDirectory "l/new/" tree).tree).result = .ok "/r/l/new/" ∧
    ¬(tree.isDirectory "/r/x" ∨ ∃ place, tree.IsFreeName "/r/x" place) ∧
    ∃ fault, (layout.ensureDirectory "x" tree).result = .error (.write "/r/x" fault) := by
  intro layout tree
  have hclosed : tree.IsClosed := FileTree.isClosed_of_entries rfl (by simp [tree, FileTree.at?, List.lookup_cons])
  have hthere : tree.isDirectory "/r/l" := by decide +kernel
  have hfree : tree.IsFreeName "/r/l/new/" ["r", "d", "new"] :=
    (FileTree.isFreeName_iff hclosed).mpr ⟨⟨["r", "d"], "new", true, rfl, by decide +kernel⟩, by decide +kernel⟩
  have hneither : ¬(tree.isDirectory "/r/x" ∨ ∃ place, tree.IsFreeName "/r/x" place) := by
    rintro (hfound | ⟨place, hname⟩)
    · exact absurd hfound (by decide +kernel)
    · obtain ⟨⟨parent, name, slash, rfl, hresolve⟩, hnone⟩ := (FileTree.isFreeName_iff hclosed).mp hname
      have hplace : tree.resolve .makeDirectory "/r/x" = .ok (.name ["r"] "x" false) := by decide +kernel
      obtain ⟨rfl, rfl, rfl⟩ := Spot.name.inj (Except.ok.inj (hplace.symm.trans hresolve))
      exact absurd hnone (by decide +kernel)
  obtain ⟨-, hstays, -⟩ := ensureDirectory_there_or_free layout "l" hclosed
  obtain ⟨hok, -, hmade, -, hagain⟩ := ensureDirectory_there_or_free layout "l/new/" hclosed
  obtain ⟨-, -, -, hrefused, -⟩ := ensureDirectory_there_or_free layout "x" hclosed
  have hresult : (layout.ensureDirectory "l/new/" tree).result = .ok "/r/l/new/" := hok.mpr (Or.inr ⟨_, hfree⟩)
  obtain ⟨-, hentry, -⟩ := hmade _ hfree
  obtain ⟨fault, herror, -⟩ := hrefused hneither
  exact ⟨hclosed, hthere, hstays hthere, hfree, hresult, hentry, (hagain _ hresult).1, hneither, fault, herror⟩

end Scaffold.Layout
