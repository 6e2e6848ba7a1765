import Scaffold.Proofs.Artifact.Target
import Scaffold.Proofs.FileTree.Inside
import Scaffold.Proofs.Writing

/-! What a call does before it writes files. A class needs its directories to be there; a test is given its own,
unless it has one. Such a directory is new and empty or was there before, so that all that can be said of
the files ahead of it, that they are no links, no directories and no running programs, is said of them behind it. -/

namespace Scaffold.Call

variable {render : Renderer} {profile : Profile} {layout : Layout} {call : Call} {tree middle later : FileTree}
  {artifacts : List Artifact} {paths : List Text} {kind : ArtifactKind}

/-- The tree in which a call begins to write files: a test has been given its directory. -/
def Prepares (profile : Profile) (layout : Layout) : Call → FileTree → FileTree → Prop
  | .newClass _ _, tree, middle => middle = tree
  | .newTest className, tree, middle =>
    ∃ event, Step.Does tree (layout.directoryStep (profile.testDir (Text.lower className))) event middle

/-- A test ends with the error for its directory, or its files are written behind it. -/
theorem performAll_testSteps_cases (profile : Profile) (layout : Layout) (className : Text) (artifacts : List Artifact)
    (tree : FileTree) :
    (∃ error, (layout.ensureDirectory (profile.testDir (Text.lower className)) tree).result = .error error ∧
      (∀ middle, ¬(Call.newTest className).Prepares profile layout tree middle) ∧
      Step.performAll (layout.testSteps profile className artifacts) tree = ⟨⟨[], .error error⟩, tree⟩) ∨
    ∃ event middle, (∀ other, (Call.newTest className).Prepares profile layout tree other ↔ other = middle) ∧
      Step.performAll (layout.testSteps profile className artifacts) tree =
        (layout.writeAll artifacts middle).behind [event] := by
  rw [Layout.testSteps, Layout.ensureDirectory, Step.performAll, Step.performAll]
  change (∃ error, _ ∧ (∀ middle, ¬∃ event, Step.Does tree _ event middle) ∧ _) ∨
    ∃ event middle, (∀ other, (∃ event, Step.Does tree _ event other) ↔ _) ∧ _
  generalize hstep : layout.directoryStep (profile.testDir (Text.lower className)) = step
  have hdirectory : layout.directoryStep (profile.testDir (ClassName.derive className).lower) = step := hstep
  have hwritten : step.written = [] := hstep ▸ rfl
  rw [hdirectory]
  cases hperform : step.perform tree with
  | error error =>
      refine Or.inl ⟨error, rfl, ?_, rfl⟩
      rintro middle ⟨event, hdoes⟩
      have heq := hperform.symm.trans hdoes.perform
      cases heq
  | ok answer =>
      obtain ⟨event, middle⟩ := answer
      refine Or.inr ⟨event, middle, fun other => ⟨?_, ?_⟩, ?_⟩
      · rintro ⟨event', hdoes⟩
        exact (Prod.mk.inj (Except.ok.inj (hperform.symm.trans hdoes.perform))).2.symm
      · rintro rfl
        exact ⟨event, Step.does_of_perform hperform⟩
      · simp only [hwritten, List.nil_append, Outcome.map]
        cases hresult : (Step.performAll (layout.fileSteps artifacts) middle).result with
        | error error => simp only [Except.map, ← hresult, Layout.writeAll]
        | ok written => simp only [Except.map, ← hresult, Layout.writeAll]

theorem performAll_steps_eq_ok_iff :
    ((Step.performAll (call.steps profile layout artifacts) tree).result = .ok paths ∧
        (Step.performAll (call.steps profile layout artifacts) tree).tree = later) ↔
      ∃ middle, call.Prepares profile layout tree middle ∧ layout.writeInOrder artifacts middle = .ok later ∧
        paths = artifacts.map (layout.target ·.path) := by
  cases call with
  | newClass license request =>
      refine Layout.writeAll_eq_ok_iff.trans ⟨fun h => ⟨tree, rfl, h⟩, ?_⟩
      rintro ⟨middle, rfl, h⟩
      exact h
  | newTest className =>
      rw [steps]
      rcases performAll_testSteps_cases profile layout className artifacts tree with
        ⟨error, -, hnone, hall⟩ | ⟨event, middle, hprepares, hall⟩
      · rw [hall]
        constructor
        · rintro ⟨hresult, -⟩
          cases hresult
        · rintro ⟨middle, hprepares, -⟩
          exact absurd hprepares (hnone middle)
      · simp only [hprepares, exists_eq_left, hall]
        exact Layout.writeAll_eq_ok_iff

/-- A call succeeds exactly if it is planned, its directory is there and its files can be written in order. -/
theorem run_eq_ok_iff :
    ((call.run render profile layout tree).result = .ok paths ∧ (call.run render profile layout tree).tree = later) ↔
      ∃ artifacts middle, (call.plan render profile).result = .ok artifacts ∧
        call.Prepares profile layout tree middle ∧ layout.writeInOrder artifacts middle = .ok later ∧
        paths = artifacts.map (layout.target ·.path) := by
  rw [run_eq, Told.change]
  cases hplan : (call.plan render profile).result with
  | error error => simp
  | ok artifacts => simp [Outcome.behind, performAll_steps_eq_ok_iff]

/-! ### The tree that was prepared -/

namespace Prepares

theorem grows (h : call.Prepares profile layout tree middle) : tree.Grows middle := by
  cases call with
  | newClass license request =>
      obtain rfl : middle = tree := h
      exact .refl middle
  | newTest className =>
      obtain ⟨event, hdoes⟩ := h
      exact hdoes.grows

/-- Before a call writes files its tree is as it was, or a directory has just been made for its test. -/
theorem cases (h : call.Prepares profile layout tree middle) : middle = tree ∨
    ∃ place, tree.Makes (layout.target (profile.testDir call.name.lower)) place ∧ tree.at? place = none ∧
      middle = tree.set place .directory ∧
      ∀ kind ∈ call.kinds, kind.directory profile call.name = profile.testDir call.name.lower := by
  cases call with
  | newClass license request => exact Or.inl h
  | newTest className =>
      obtain ⟨event, hdoes⟩ := h
      generalize hstep : layout.directoryStep (profile.testDir (Text.lower className)) = step at hdoes
      cases hdoes with
      | found => exact Or.inl rfl
      | made hmakes hfree =>
          obtain rfl := Step.directory.inj hstep
          exact Or.inr ⟨_, hmakes, hfree, rfl, fun kind hkind => ArtifactKind.directory_of_testSet hkind _ _⟩
      | written => cases hstep

theorem isClosed (haccepted : call.IsAccepted) (hclosed : tree.IsClosed)
    (h : call.Prepares profile layout tree middle) : middle.IsClosed := by
  have hname := isParsed_name haccepted
  rcases h.cases with rfl | ⟨place, hmakes, hfree, rfl, -⟩
  · exact hclosed
  · rw [Profile.target_testDir layout profile hname] at hmakes
    exact hclosed.makes hname.isFileName_lower hmakes hfree

/-- What stands at the targets has not changed in kind. -/
theorem targets (haccepted : call.IsAccepted) (hclosed : tree.IsClosed)
    (h : call.Prepares profile layout tree middle) (hkind : kind ∈ call.kinds) :
    let target := layout.target (kind.path profile call.name)
    (middle.isLink target → tree.isLink target) ∧ (middle.isDirectory target → tree.isDirectory target) ∧
      (middle.isRunning target → tree.isRunning target) := by
  have hname := isParsed_name haccepted
  intro target
  rcases h.cases with rfl | ⟨place, hmakes, hfree, rfl, hdirectory⟩
  · exact ⟨id, id, id⟩
  · obtain ⟨-, hnothing, hlink⟩ := FileTree.nothing_in_made hclosed (kind.isFileName_fileName hname)
      (kind.nul_notMem_fileName hname) hmakes hfree
    rw [← hdirectory kind hkind, ← kind.target_path layout profile hname] at hnothing hlink
    refine ⟨fun htrue => absurd htrue hlink, fun htrue => ?_, fun htrue => ?_⟩
    · obtain ⟨there, hthere, -⟩ := FileTree.isDirectory_iff.mp htrue
      rw [hnothing] at hthere
      cases hthere
    · obtain ⟨there, hthere, -⟩ := FileTree.isRunning_iff.mp htrue
      rw [hnothing] at hthere
      cases hthere

end Prepares

end Scaffold.Call
