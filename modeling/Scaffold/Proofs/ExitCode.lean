import Scaffold.Proofs.Placement
import Scaffold.Proofs.Program
import Scaffold.Proofs.ReadBack

/-! What the exit code of the program tells. It is that of the command line if this leads to no run, else that of the
result of the run. A run without an error that is no dry one has done all its steps, which go to different places,
so that in a tree without links all its files can be read back. -/

namespace Scaffold

/-- The names on a command line are in order. -/
def Command.Accepts (command : Command) (arguments : Arguments) : Prop :=
  match command with
  | .newClass => ClassRequest.IsAcceptable ⟨arguments.className, arguments.baseClass⟩
  | .newTest => IsPlainName arguments.className

theorem Command.isAccepted_work (command : Command) (year : Int) (arguments : Arguments) :
    (command.work year arguments).call.IsAccepted ↔ command.Accepts arguments := by
  cases command <;> exact Iff.rfl

/-! ### Runs that wrote -/

section

variable {layout : Layout} {call : Call} {artifacts : List Artifact} {tree : FileTree} {written : List Text}

theorem Call.file_mem_steps_of_mem (profile : Profile) (layout : Layout) (call : Call) {artifact : Artifact}
    (h : artifact ∈ artifacts) :
    .file (layout.target artifact.path) artifact.content ∈ call.steps profile layout artifacts := by
  have hfile : .file (layout.target artifact.path) artifact.content ∈ layout.fileSteps artifacts :=
    List.mem_map_of_mem h
  cases call with
  | newClass => exact hfile
  | newTest => exact List.mem_cons_of_mem _ hfile

/-- All files of a call that succeeds read as they were planned. -/
theorem Call.contentAt?_of_performAll (hlinks : tree.LinkFree)
    (hplan : (call.plan Template.renderer .synqClient).result = .ok artifacts)
    (hdone : (Step.performAll (call.steps .synqClient layout artifacts) tree).result = .ok written)
    {artifact : Artifact} (hartifact : artifact ∈ artifacts) :
    (Step.performAll (call.steps .synqClient layout artifacts) tree).tree.contentAt? (layout.target artifact.path) =
      some artifact.content := by
  obtain ⟨haccepted, content, hsteps⟩ := isStep_of_plan layout hplan
  have hmem := call.file_mem_steps_of_mem .synqClient layout hartifact
  obtain ⟨done, rest, events, later, heq, hperformed, ⟨rfl, hall⟩ | ⟨step, tail, fault, rfl, hall⟩⟩ :=
    Step.performAll_ends (call.steps .synqClient layout artifacts) tree
  · rw [hall]
    rw [List.append_nil] at heq
    rw [heq] at hmem hsteps
    exact hperformed.contentAt? hlinks (fun step hstep => (hsteps step hstep).isBelow haccepted)
      (fun step hstep other hother => eq_of_isStep haccepted (hsteps step hstep) (hsteps other hother)) hmem
  · rw [hall] at hdone
    cases hdone

end

variable {command : Command} {tool : Text} {year : Int} {arguments : Arguments} {tree : FileTree}

/-- A run without an error planned its files and, unless it is a dry run, wrote them. -/
theorem Command.contentAt?_of_run (hlinks : tree.LinkFree) {lines : List Text}
    (h : (command.run tool year arguments tree).result = .ok lines) :
    ∃ layout artifacts, (Layout.resolve tool arguments.root).result = .ok layout ∧
      (command.work year arguments).plan.result = .ok artifacts ∧
      (arguments.dryRun = true ∨ ∀ artifact ∈ artifacts,
        (command.run tool year arguments tree).tree.contentAt? (layout.target artifact.path) =
          some artifact.content) := by
  cases hdraft : (command.draft tool year arguments).result with
  | error error =>
      rw [run_of_error hdraft] at h
      cases h
  | ok drafted =>
      obtain ⟨layout, artifacts⟩ := drafted
      obtain ⟨hlayout, hplan⟩ := draft_result_eq_ok_iff.mp hdraft
      refine ⟨layout, artifacts, hlayout, hplan, ?_⟩
      cases hdry : arguments.dryRun with
      | true => exact Or.inl rfl
      | false =>
          rw [run_of_wetRun hdry hdraft] at h ⊢
          rw [Job.steps_eq] at h ⊢
          rw [Job.plan_eq] at hplan
          cases hdone : (Step.performAll ((command.work year arguments).call.steps .synqClient layout artifacts)
              tree).result with
          | error error =>
              simp only [Outcome.behind, Outcome.map, hdone] at h
              cases h
          | ok written => exact Or.inr fun artifact => Call.contentAt?_of_performAll hlinks hplan hdone

/-- A run that does not get as far as writing leaves the tree alone. -/
theorem Command.run_tree_of_not_writing (h : arguments.dryRun = true ∨
    (∃ error, (Layout.resolve tool arguments.root).result = .error error) ∨ ¬command.Accepts arguments) :
    (command.run tool year arguments tree).tree = tree := by
  rcases h with hdry | hdraft
  · exact run_tree_of_dryRun hdry
  · rcases command.draft_cases tool year arguments with ⟨layout, artifacts, hok⟩ | ⟨fault, -, herror⟩ |
      ⟨fault, -, herror⟩
    · obtain ⟨hlayout, hplan⟩ := draft_result_eq_ok_iff.mp hok
      rcases hdraft with ⟨error, hresolve⟩ | hrefused
      · cases hlayout.symm.trans hresolve
      · rw [Job.plan_eq] at hplan
        exact absurd ((command.isAccepted_work year arguments).mp (Call.planned_of_plan hplan).1) hrefused
    · rw [run_of_error herror]
    · rw [run_of_error herror]

/-! ### Exit codes -/

theorem Invocation.run_of_stop {call : Invocation} {stop : Stop} (h : call.command.parse call.arguments = .error stop)
    (tree : FileTree) : call.run tree = (call.reportOf stop, tree) := by
  rw [run, h]

theorem Invocation.run_of_arguments {call : Invocation} (h : call.command.parse call.arguments = .ok arguments)
    (tree : FileTree) : call.run tree =
      ((call.command.run call.tool call.year arguments tree).report arguments.verbose,
        (call.command.run call.tool call.year arguments tree).tree) := by
  rw [run, h]

/-- A run without an error that is no dry one leaves each of its files where it is to be. -/
theorem Invocation.contentAt?_of_run {call : Invocation} {arguments : Arguments} {tree : FileTree} {layout : Layout}
    {lines : List Text} {kind : ArtifactKind} (hlinks : tree.LinkFree)
    (hparse : call.command.parse call.arguments = .ok arguments)
    (hresult : (call.command.run call.tool call.year arguments tree).result = .ok lines)
    (hdry : arguments.dryRun = false) (hlayout : (Layout.resolve call.tool arguments.root).result = .ok layout)
    (hkind : kind ∈ (call.command.work call.year arguments).call.kinds) :
    ∃ content, (call.run tree).2.contentAt?
      (layout.target (kind.path .synqClient (call.command.work call.year arguments).call.name)) = some content := by
  obtain ⟨found, artifacts, hfound, hplan, hread⟩ := Command.contentAt?_of_run hlinks hresult
  obtain rfl := Except.ok.inj (hlayout.symm.trans hfound)
  rw [Job.plan_eq] at hplan
  obtain ⟨-, content, rfl⟩ := Call.planned_of_plan hplan
  rw [run_of_arguments hparse]
  rw [hdry] at hread
  exact ⟨_, hread.resolve_left Bool.false_ne_true _ (List.mem_map_of_mem hkind)⟩

end Scaffold
