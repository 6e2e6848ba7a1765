import Scaffold.Proofs.Artifact.Below
import Scaffold.Proofs.Call
import Scaffold.Proofs.Obstacle

/-! Where the steps of a call for SynqClient go. They all lead down from the root of the repository by plain names,
and no two of them lead to one place. -/

namespace Scaffold

namespace Call

/-- What the steps of a call are: the files that it plans and, for a test, the directory ahead of them. -/
inductive IsStep (layout : Layout) (call : Call) (content : ArtifactKind → Text) : Step → Prop
  | directory {className : Text} (hcall : call = .newTest className) :
      IsStep layout call content (.directory (layout.target (Profile.synqClient.testDir (Text.lower className))))
  | file {kind : ArtifactKind} (hkind : kind ∈ call.kinds) :
      IsStep layout call content (.file (layout.target (kind.path .synqClient call.name)) (content kind))

variable {render : Renderer} {layout : Layout} {call : Call} {artifacts : List Artifact} {content : ArtifactKind → Text}
  {step builder : Step}

/-- The steps for planned files are those of the call. -/
theorem isStep_of_plan (layout : Layout) (h : (call.plan render .synqClient).result = .ok artifacts) :
    call.IsAccepted ∧ ∃ content, ∀ step ∈ call.steps .synqClient layout artifacts, IsStep layout call content step := by
  obtain ⟨haccepted, content, rfl⟩ := planned_of_plan h
  refine ⟨haccepted, content, fun step hstep => ?_⟩
  cases step with
  | directory path =>
      obtain ⟨className, hcall, rfl⟩ := directory_mem_steps hstep
      exact .directory hcall
  | file path text =>
      obtain ⟨artifact, hartifact, rfl, rfl⟩ := file_mem_steps hstep
      obtain ⟨kind, hkind, rfl⟩ := List.mem_map.mp hartifact
      exact .file hkind

theorem isBelow_directory (layout : Layout) {className : Text} (h : (Call.newTest className).IsAccepted) :
    Scaffold.IsBelow layout.root (layout.target (Profile.synqClient.testDir (Text.lower className)))
      ["tests", Text.lower className] := by
  have hname := isParsed_name h
  exact (Profile.spells_testDir hname.lower_isWord hname.lower_ne_nil).isBelow layout.root

theorem isBelow_file (layout : Layout) (h : call.IsAccepted) (kind : ArtifactKind) :
    Scaffold.IsBelow layout.root (layout.target (kind.path .synqClient call.name)) (kind.namesBelow call.name) :=
  (kind.spells_path (isParsed_name h)).isBelow layout.root

theorem IsStep.isBelow (haccepted : call.IsAccepted) (h : IsStep layout call content step) :
    step.IsBelow layout.root := by
  cases h with
  | directory hcall =>
      subst hcall
      have hbelow := isBelow_directory layout haccepted
      rw [Step.IsBelow, Step.below, Step.path, hbelow.drop_names]
      exact hbelow
  | @file kind _ =>
      have hbelow := isBelow_file layout haccepted kind
      rw [Step.IsBelow, Step.below, Step.path, hbelow.drop_names]
      exact hbelow

theorem below_directory {className : Text} (h : (Call.newTest className).IsAccepted) :
    (Step.directory (layout.target (Profile.synqClient.testDir (Text.lower className)))).below layout.root =
      (["tests", Text.lower className] : List Text) := (isBelow_directory layout h).drop_names

theorem below_file (h : call.IsAccepted) (kind : ArtifactKind) (text : Text) :
    (Step.file (layout.target (kind.path .synqClient call.name)) text).below layout.root =
      kind.namesBelow call.name := (isBelow_file layout h kind).drop_names

/-- No two steps of a call go to one place. -/
theorem eq_of_isStep (haccepted : call.IsAccepted) (hstep : IsStep layout call content step)
    (hbuilder : IsStep layout call content builder)
    (heq : builder.below layout.root = step.below layout.root) : builder = step := by
  cases hstep with
  | directory hcall =>
      subst hcall
      cases hbuilder with
      | directory hcall => rw [Call.newTest.inj hcall]
      | file hkind =>
          rw [below_directory haccepted, below_file haccepted, ArtifactKind.namesBelow_of_testSet hkind] at heq
          exact absurd (congrArg List.length heq) (by simp)
  | @file kind hkind =>
      cases hbuilder with
      | directory hcall =>
          subst hcall
          rw [below_directory haccepted, below_file haccepted, ArtifactKind.namesBelow_of_testSet hkind] at heq
          exact absurd (congrArg List.length heq) (by simp)
      | @file kind' hkind' =>
          rw [below_file haccepted, below_file haccepted] at heq
          have hkinds : (kind' ∈ ArtifactKind.classSet ∧ kind ∈ ArtifactKind.classSet) ∨
              (kind' ∈ ArtifactKind.testSet ∧ kind ∈ ArtifactKind.testSet) := by
            cases call with
            | newClass => exact Or.inl ⟨hkind', hkind⟩
            | newTest => exact Or.inr ⟨hkind', hkind⟩
          have hfile := (List.cons.inj (List.append_inj' heq rfl).2).1
          rw [ArtifactKind.eq_of_fileName_eq (isParsed_name haccepted) hkinds hfile]

end Call

end Scaffold
