import Scaffold.Proofs.FileTree.Change
import Scaffold.Step

/-! What steps do. A step that succeeds finds a directory, makes one or writes a file, and does nothing else, so
that the tree grows by it. Steps in order are done up to the first that fails, and what follows a step is done
in the tree it left. -/

namespace Scaffold.Step

open FileTree (Makes Writes IsWritable)

variable {tree later latest : FileTree} {path content : Text} {event : Event} {step : Step}

/-! ### One step -/

/-- All that a step can do to a tree if it succeeds, and what it tells. -/
inductive Does (tree : FileTree) : Step → Event → FileTree → Prop
  | found {path : Text} (hfound : tree.isDirectory path = true) :
      Does tree (.directory path) (.foundDirectory path) tree
  | made {path : Text} {place : Location} (hmakes : tree.Makes path place) (hfree : tree.at? place = none) :
      Does tree (.directory path) (.createdDirectory path) (tree.set place .directory)
  | written {path : Text} {place : Location} (content : Text) (hwrites : tree.Writes path place)
      (hwritable : IsWritable (tree.at? place)) :
      Does tree (.file path content) (.wrote path) (tree.set place (.file content))

theorem does_of_perform (h : step.perform tree = .ok (event, later)) : Does tree step event later := by
  cases step with
  | directory path =>
      rw [perform] at h
      split at h
      next hcreate =>
        obtain ⟨rfl, rfl⟩ := Prod.mk.inj (Except.ok.inj h)
        obtain ⟨place, hmakes, hfree, rfl⟩ := FileTree.createDirectory_eq_ok_iff.mp hcreate
        exact .made hmakes hfree
      next =>
        split at h
        next hfound =>
          obtain ⟨rfl, rfl⟩ := Prod.mk.inj (Except.ok.inj h)
          rw [Bool.and_eq_true] at hfound
          exact .found hfound.2
        next => exact nomatch h
  | file path content =>
      rw [perform] at h
      split at h
      next hwrite =>
        obtain ⟨rfl, rfl⟩ := Prod.mk.inj (Except.ok.inj h)
        obtain ⟨place, hwrites, hwritable, rfl⟩ := FileTree.writeFile_eq_ok_iff.mp hwrite
        exact .written content hwrites hwritable
      next => exact nomatch h

theorem Does.perform (h : Does tree step event later) : step.perform tree = .ok (event, later) := by
  cases h with
  | found hfound =>
      simp only [Step.perform, FileTree.createDirectory_of_isDirectory hfound, hfound, decide_true, Bool.and_self,
        if_true]
  | made hmakes hfree =>
      simp only [Step.perform, FileTree.createDirectory_eq_ok_iff.mpr ⟨_, hmakes, hfree, rfl⟩]
  | written content hwrites hwritable =>
      simp only [Step.perform, FileTree.writeFile_eq_ok_iff.mpr ⟨_, hwrites, hwritable, rfl⟩]

theorem Does.grows (h : Does tree step event later) : tree.Grows later := by
  cases h with
  | found => exact .refl tree
  | made _ hfree => exact FileTree.Makes.grows hfree
  | written content _ hwritable => exact hwritable.grows content

/-- A directory is there, or it can be made. -/
theorem exists_does_directory_iff :
    (∃ event later, Does tree (.directory path) event later) ↔
      tree.isDirectory path ∨ ∃ later, tree.createDirectory path = .ok later := by
  constructor
  · rintro ⟨event, later, hdoes⟩
    cases hdoes with
    | found hfound => exact Or.inl hfound
    | made hmakes hfree =>
        exact Or.inr ⟨_, FileTree.createDirectory_eq_ok_iff.mpr ⟨_, hmakes, hfree, rfl⟩⟩
  · rintro (hfound | ⟨later, hcreate⟩)
    · exact ⟨_, _, .found hfound⟩
    · obtain ⟨place, hmakes, hfree, rfl⟩ := FileTree.createDirectory_eq_ok_iff.mp hcreate
      exact ⟨_, _, .made hmakes hfree⟩

/-! ### Steps in order -/

/-- The steps succeed one after the other; they tell the events and lead from the one tree to the other. -/
inductive Performed : List Step → List Event → FileTree → FileTree → Prop
  | nil (tree : FileTree) : Performed [] [] tree tree
  | cons {step : Step} {steps : List Step} {event : Event} {events : List Event} {tree later latest : FileTree}
      (h : Does tree step event later) (hrest : Performed steps events later latest) :
      Performed (step :: steps) (event :: events) tree latest

variable {steps rest : List Step} {events : List Event}

theorem Performed.grows (h : Performed steps events tree later) : tree.Grows later := by
  induction h with
  | nil => exact .refl _
  | cons h _ ih => exact h.grows.trans ih

/-- Steps are done up to the first that fails, if any does. -/
theorem performAll_cases (steps : List Step) (tree : FileTree) :
    ∃ done rest events later, steps = done ++ rest ∧ Performed done events tree later ∧
      performAll steps tree = ⟨⟨events, (performAll rest later).result.map (done.flatMap written ++ ·)⟩, later⟩ ∧
      (rest = [] ∨ ∃ step tail error, rest = step :: tail ∧ step.perform later = .error error) := by
  induction steps generalizing tree with
  | nil => exact ⟨[], [], [], tree, rfl, .nil tree, rfl, Or.inl rfl⟩
  | cons step steps ih =>
      cases hperform : step.perform tree with
      | error error =>
          refine ⟨[], step :: steps, [], tree, rfl, .nil tree, ?_, Or.inr ⟨step, steps, error, rfl, hperform⟩⟩
          rw [performAll, hperform]
          rfl
      | ok answer =>
          obtain ⟨event, later⟩ := answer
          obtain ⟨done, rest, events, latest, rfl, hdone, hall, hrest⟩ := ih later
          refine ⟨step :: done, rest, event :: events, latest, rfl, .cons (does_of_perform hperform) hdone, ?_, hrest⟩
          rw [performAll, hperform]
          simp only [hall, Outcome.map, Outcome.behind]
          cases (performAll rest latest).result with
          | error error => rfl
          | ok texts => simp [Except.map, List.append_assoc]

/-- What follows steps that succeed is done in the tree they leave. -/
theorem performAll_of_performed (h : Performed steps events tree later) (rest : List Step) :
    (performAll (steps ++ rest) tree).result = (performAll rest later).result.map (steps.flatMap written ++ ·) ∧
    (performAll (steps ++ rest) tree).tree = (performAll rest later).tree := by
  induction h with
  | nil tree =>
      refine ⟨?_, rfl⟩
      rw [List.nil_append]
      cases (performAll rest tree).result <;> rfl
  | @cons step steps event events tree later latest hdoes _ ih =>
      rw [List.cons_append, performAll, hdoes.perform]
      simp only [Outcome.map, Outcome.behind, ih.1, ih.2, and_true]
      cases (performAll rest latest).result with
      | error error => rfl
      | ok texts => simp [Except.map, List.append_assoc]

end Scaffold.Step
