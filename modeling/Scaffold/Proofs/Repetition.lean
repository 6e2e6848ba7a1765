import Scaffold.Generate
import Scaffold.Proofs.Step

/-! Generating twice. A step that was done can be done again in every tree that has grown since: its path still
leads where it led, a directory that was made is found, and the same entry is set. Setting the entries of a
run a second time changes nothing, so that the second run meets the step that failed, if one did, in the
tree in which it failed. -/

namespace Scaffold

namespace Step

variable {tree later : FileTree} {event : Event} {step : Step} {steps : List Step} {events : List Event}

theorem Does.again (h : Does tree step event later) :
    ∃ entries, later = tree.setAll entries ∧
      ∀ grown, later.Grows grown → ∃ event', Does grown step event' (grown.setAll entries) := by
  have hgrows := h.grows
  cases h with
  | found hfound => exact ⟨[], rfl, fun grown hgrown => ⟨_, .found (hgrown.isDirectory hfound)⟩⟩
  | @made path place hmakes hfree =>
      refine ⟨[(place, .directory)], rfl, fun grown hgrown => ?_⟩
      have hmade : grown.at? place = some .directory := by
        have hplace := hgrown.grown place
        rw [FileTree.at?_set_self tree hmakes.ne_nil] at hplace
        exact hplace.directory
      have hfound : grown.isDirectory path = true :=
        FileTree.isDirectory_iff.mpr ⟨place, (hmakes.mono (hgrows.trans hgrown)).locate? hmade, hmade⟩
      -- The directory is there already, so that setting it again is doing nothing.
      have hsame : grown.setAll [(place, .directory)] = grown := FileTree.set_of_at? hmakes.ne_nil hmade
      rw [hsame]
      exact ⟨_, .found hfound⟩
  | @written path place content hwrites hwritable =>
      refine ⟨[(place, .file content)], rfl, fun grown hgrown => ?_⟩
      have hwritten : FileTree.IsWritable (grown.at? place) := by
        have hplace := hgrown.grown place
        rw [FileTree.at?_set_self tree hwrites.ne_nil] at hplace
        exact Or.inr hplace.file
      exact ⟨_, .written content (hwrites.mono (hgrows.trans hgrown)) hwritten⟩

theorem Performed.again (h : Performed steps events tree later) :
    ∃ entries, later = tree.setAll entries ∧
      ∀ grown, later.Grows grown → ∃ events', Performed steps events' grown (grown.setAll entries) := by
  induction h with
  | nil tree => exact ⟨[], rfl, fun grown _ => ⟨[], .nil grown⟩⟩
  | cons hdoes hrest ih =>
      obtain ⟨entries, rfl, hstep⟩ := hdoes.again
      obtain ⟨entries', rfl, hsteps⟩ := ih
      refine ⟨entries ++ entries', (FileTree.setAll_append _ _ _).symm, fun grown hgrown => ?_⟩
      obtain ⟨event', hdoes'⟩ := hstep grown (hrest.grows.trans hgrown)
      obtain ⟨events', hrest'⟩ := hsteps _ (hgrown.trans hdoes'.grows)
      rw [FileTree.setAll_append]
      exact ⟨event' :: events', .cons hdoes' hrest'⟩

/-- Steps that succeeded lead from the tree they left to itself. -/
theorem Performed.repeat (h : Performed steps events tree later) :
    ∃ events', Performed steps events' later later := by
  obtain ⟨entries, rfl, hagain⟩ := h.again
  obtain ⟨events', hrepeat⟩ := hagain _ (.refl _)
  rw [FileTree.setAll_setAll] at hrepeat
  exact ⟨events', hrepeat⟩

theorem performAll_again (steps : List Step) (tree : FileTree) :
    (performAll steps (performAll steps tree).tree).result = (performAll steps tree).result ∧
    (performAll steps (performAll steps tree).tree).tree = (performAll steps tree).tree := by
  obtain ⟨done, rest, events, later, rfl, hdone, hall, hrest⟩ := performAll_cases steps tree
  obtain ⟨events', hrepeat⟩ := hdone.repeat
  have hstays : (performAll rest later).tree = later := by
    rcases hrest with rfl | ⟨step, tail, error, rfl, herror⟩
    · rfl
    · rw [performAll, herror]
  obtain ⟨hresult, htree⟩ := performAll_of_performed hrepeat rest
  rw [hall]
  exact ⟨hresult, htree.trans hstays⟩

end Step

/-- A run that plans first and performs then comes to the same if it is done a second time. -/
theorem Told.change_again {α : Type} (told : Told α) (steps : α → List Step) (tree : FileTree) :
    let run := told.change fun value => Step.performAll (steps value)
    (run (run tree).tree).result = (run tree).result ∧ (run (run tree).tree).tree = (run tree).tree := by
  intro run
  cases hresult : told.result with
  | error error => simp only [run, Told.change, hresult, and_self]
  | ok value =>
      simp only [run, Told.change, hresult, Outcome.behind]
      exact Step.performAll_again (steps value) tree

/-- Generating a class or a test a second time, right after the first, gives the same result, be it the
written paths or the error, and leaves the tree as the first run left it. This holds of every tree, whatever
links are in it, and of a first run that failed on its way. -/
theorem generate_again (render : Renderer) (profile : Profile) (license : License) (layout : Layout)
    (request : ClassRequest) (className : Text) (tree : FileTree) :
    (let classRun := generateClass render profile license layout request
     (classRun (classRun tree).tree).result = (classRun tree).result ∧
     (classRun (classRun tree).tree).tree = (classRun tree).tree) ∧
    (let testRun := generateTest render profile layout className
     (testRun (testRun tree).tree).result = (testRun tree).result ∧
     (testRun (testRun tree).tree).tree = (testRun tree).tree) :=
  ⟨Told.change_again _ _ tree, Told.change_again _ _ tree⟩

end Scaffold
