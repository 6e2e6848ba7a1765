import Scaffold.Proofs.Artifact.Target
import Scaffold.Proofs.Placement
import Scaffold.Proofs.Program
import Scaffold.Proofs.ReadBack

/-! What a dry run tells of the run that is none. Both draft the same: if that fails they fail alike, before anything
is written. If it does not, the dry run lists the targets of the files, and the other writes them in this order
until it is through or a step fails; the step that fails is the one for the next target or, ahead of all files,
the one for the directory of a test. -/

namespace Scaffold

/-- A step of a run failed. -/
def Error.IsWrite (error : Error) : Prop := ∃ path fault, error = .write path fault

/-- How a run ends that is to write the targets in order. -/
inductive Call.Fulfils (call : Call) (layout : Layout) (targets : List Text) (real : Told (List Text)) : Prop
  | complete (hresult : real.result = .ok []) (hwritten : real.written = targets)
  | stopped {next : Text} {rest : List Text} {fault : Fault} (hresult : real.result = .error (.write next fault))
      (htargets : targets = real.written ++ next :: rest)
  | directory {className directory : Text} {fault : Fault} (hcall : call = .newTest className)
      (hdirectory : directory = layout.target (Profile.synqClient.testDir (Text.lower className)))
      (hresult : real.result = .error (.write directory fault)) (hwritten : real.written = [])
      (hinside : ∀ target ∈ targets, ∃ file, Path.IsFileName file ∧ target = Path.join directory file)

variable {layout : Layout} {call : Call} {artifacts : List Artifact}

namespace Call

theorem flatMap_written_steps (profile : Profile) (layout : Layout) (call : Call) (artifacts : List Artifact) :
    (call.steps profile layout artifacts).flatMap Step.written = artifacts.map (layout.target ·.path) := by
  cases call with
  | newClass license request => exact layout.flatMap_written_fileSteps artifacts
  | newTest className => exact layout.flatMap_written_fileSteps artifacts

/-- If a step of a call is to make sure of a directory, it is ahead of all others. -/
theorem eq_nil_of_directory {profile : Profile} {path : Text} {done rest : List Step}
    (h : call.steps profile layout artifacts = done ++ .directory path :: rest) : done = [] := by
  have hnone := directory_notMem_fileSteps layout artifacts path
  cases call with
  | newClass =>
      have hfiles : layout.fileSteps artifacts = done ++ .directory path :: rest := h
      exact absurd (hfiles ▸ List.mem_append_right _ List.mem_cons_self) hnone
  | newTest =>
      cases done with
      | nil => rfl
      | cons first done =>
          have hfiles : layout.fileSteps artifacts = done ++ .directory path :: rest := (List.cons.inj h).2
          exact absurd (hfiles ▸ List.mem_append_right _ List.mem_cons_self) hnone

/-- The files of a test are in its directory. -/
theorem target_eq_join {className : Text} (haccepted : (Call.newTest className).IsAccepted) {kind : ArtifactKind}
    (hkind : kind ∈ ArtifactKind.testSet) :
    layout.target (kind.path .synqClient (.derive className)) =
      Path.join (layout.target (Profile.synqClient.testDir (Text.lower className)))
        (kind.fileName (.derive className)) := by
  have hname : (ClassName.derive className).IsParsed := isParsed_name haccepted
  rw [kind.target_path layout .synqClient hname, ArtifactKind.directory_of_testSet hkind]
  rfl

/-- The steps of a call end as its targets let expect, whatever was told ahead of them. -/
theorem fulfils_performAll (layout : Layout) (tree : FileTree)
    (hplan : (call.plan Template.renderer .synqClient).result = .ok artifacts)
    {drafted : List Event} (hdrafted : ∀ path, .wrote path ∉ drafted) :
    let real := ((Step.performAll (call.steps .synqClient layout artifacts) tree).map
      fun _ => ([] : List Text)).behind drafted
    call.Fulfils layout (artifacts.map (layout.target ·.path)) real.toTold ∧
      ∃ done events, done <+: call.steps .synqClient layout artifacts ∧
        Step.Performed done events tree real.tree ∧ real.written = done.flatMap Step.written := by
  have hsilent : drafted.filterMap Event.written? = [] := written_eq_nil hdrafted
  have htargets := flatMap_written_steps .synqClient layout call artifacts
  obtain ⟨done, rest, events, later, hsteps, hdone, hall⟩ :=
    Step.performAll_ends (call.steps .synqClient layout artifacts) tree
  have hwritten : (drafted ++ events).filterMap Event.written? = done.flatMap Step.written := by
    rw [List.filterMap_append, hsilent, List.nil_append, hdone.written_eq]
  intro real
  rcases hall with ⟨rfl, hall⟩ | ⟨step, tail, fault, rfl, hall⟩
  · have hreal : real = ⟨⟨drafted ++ events, .ok []⟩, later⟩ := by
      simp only [real, hall, Outcome.map, Outcome.behind, Except.map]
    rw [List.append_nil] at hsteps
    rw [hreal, ← htargets, hsteps]
    exact ⟨.complete rfl hwritten, done, events, List.prefix_refl _, hdone, hwritten⟩
  · have hreal : real = ⟨⟨drafted ++ events, .error (.write step.path fault)⟩, later⟩ := by
      simp only [real, hall, Outcome.map, Outcome.behind, Except.map]
    rw [hreal]
    refine ⟨?_, done, events, hsteps ▸ List.prefix_append _ _, hdone, hwritten⟩
    cases step with
    | file path content =>
        have htargets' : artifacts.map (layout.target ·.path) =
            done.flatMap Step.written ++ path :: tail.flatMap Step.written := by
          rw [← htargets, hsteps, List.flatMap_append]
          rfl
        exact .stopped rfl (htargets'.trans (congrArg (· ++ _) hwritten.symm))
    | directory path =>
        obtain rfl := eq_nil_of_directory hsteps
        have hmem : .directory path ∈ call.steps .synqClient layout artifacts := hsteps ▸ List.mem_cons_self
        obtain ⟨className, rfl, hpath⟩ := directory_mem_steps hmem
        refine .directory rfl hpath rfl hwritten fun target htarget => ?_
        obtain ⟨haccepted, content, rfl⟩ := planned_of_plan hplan
        simp only [List.map_map, List.mem_map] at htarget
        obtain ⟨kind, hkind, rfl⟩ := htarget
        exact ⟨_, kind.isFileName_fileName (isParsed_name haccepted), hpath ▸ target_eq_join haccepted hkind⟩

end Call

/-- A dry run, which never changes the tree, foretells the run that differs only in not being dry. It fails exactly
if the other fails other than by a step, and then both show the same and exit with 1. Otherwise it exits with 0 and
prints, one to a line and in order, the targets of the planned files. What the other writes, as it tells and as the
tree shows, is all of these or those ahead of the one that its error names; only a test can also fail ahead of all
files, by the directory that they all go to. -/
theorem Command.dryRun_foretells (command : Command) (tool : Text) (year : Int) (arguments : Arguments)
    (tree : FileTree) :
    let dry := command.run tool year { arguments with dryRun := true } tree
    let real := command.run tool year { arguments with dryRun := false } tree
    let shown := dry.report arguments.verbose
    dry.tree = tree ∧
    ((∃ error, dry.result = .error error) ↔ ∃ error, real.result = .error error ∧ ¬error.IsWrite) ∧
    (∀ error, dry.result = .error error →
      real = dry ∧ shown.exitCode = 1 ∧ error.message ++ ['\n'] <:+ shown.errorOutput) ∧
    (∀ targets, dry.result = .ok targets → shown.exitCode = 0 ∧ shown.output = targets.flatMap (· ++ ['\n']) ∧
      ∃ job layout artifacts, (command.job year arguments).result = .ok job ∧
        (Layout.resolve tool arguments.root).result = .ok layout ∧ job.plan.result = .ok artifacts ∧
        targets = artifacts.map (layout.target ·.path) ∧ job.call.Fulfils layout targets real.toTold ∧
        ∃ done events, done <+: job.steps layout artifacts ∧ Step.Performed done events tree real.tree ∧
          real.written = done.flatMap Step.written) := by
  intro dry real shown
  have hshown : shown = dry.report arguments.verbose := rfl
  cases hdraft : (command.draft tool year arguments).result with
  | error error =>
      have hdry : dry = ⟨⟨(command.draft tool year arguments).events, .error error⟩, tree⟩ := run_of_error hdraft
      have hreal : real = ⟨⟨(command.draft tool year arguments).events, .error error⟩, tree⟩ := run_of_error hdraft
      rw [hshown, hreal, hdry]
      refine ⟨rfl, ⟨fun _ => ⟨error, rfl, ?_⟩, fun _ => ⟨error, rfl⟩⟩, ?_, nofun⟩
      · rintro ⟨path, fault, rfl⟩
        exact draft_result_ne_write path fault hdraft
      · rintro _ ⟨⟩
        exact ⟨rfl, rfl, Told.message_suffix_report _ rfl⟩
  | ok drafted =>
      obtain ⟨layout, artifacts⟩ := drafted
      obtain ⟨hlayout, hplan⟩ := draft_result_eq_ok_iff.mp hdraft
      have hdry : dry = ⟨⟨(command.draft tool year arguments).events, .ok (artifacts.map (layout.target ·.path))⟩,
          tree⟩ := run_of_dryRun rfl hdraft
      have hreal : real = ((Step.performAll ((command.work year arguments).call.steps .synqClient layout artifacts)
          tree).map fun _ => ([] : List Text)).behind (command.draft tool year arguments).events := by
        rw [← Job.steps_eq]
        exact run_of_wetRun rfl hdraft
      have hcall := (command.work year arguments).plan_eq ▸ hplan
      obtain ⟨hfulfils, hperformed⟩ :=
        Call.fulfils_performAll layout tree hcall (command.wrote_notMem_draft tool year arguments)
      rw [← hreal] at hfulfils hperformed
      rw [hshown, hdry]
      refine ⟨rfl, ⟨(fun ⟨_, h⟩ => nomatch h), ?_⟩, nofun, ?_⟩
      · rintro ⟨error, herror, hwrite⟩
        rcases hfulfils with ⟨hresult, -⟩ | ⟨hresult, -⟩ | ⟨-, -, hresult, -, -⟩
        · exact nomatch hresult.symm.trans herror
        · exact absurd ⟨_, _, (Except.error.inj (hresult.symm.trans herror)).symm⟩ hwrite
        · exact absurd ⟨_, _, (Except.error.inj (hresult.symm.trans herror)).symm⟩ hwrite
      · rintro _ ⟨⟩
        refine ⟨rfl, rfl, _, layout, artifacts, command.job_result year arguments, hlayout, hplan, rfl, hfulfils, ?_⟩
        rw [Job.steps_eq]
        exact hperformed

/-- Where the directory of tests is missing, the dry run for the test of `Job` lists three files and the other fails at
the directory they are to be in; for a name that is none both are refused alike. -/
theorem Command.dryRun_foretells_job :
    let arguments : Arguments := ⟨"Job", none, some "/r", false, false⟩
    let refused : Arguments := ⟨"1Job", none, some "/r", false, false⟩
    let tree : FileTree := ⟨[(["r"], .directory)], []⟩
    let targets : List Text := ["/r/tests/job/job.pro", "/r/tests/job/CMakeLists.txt", "/r/tests/job/tst_job.cpp"]
    (newTest.run [] 2024 { arguments with dryRun := true } tree).result = .ok targets ∧
    (newTest.run [] 2024 { arguments with dryRun := false } tree).result =
      .error (.write "/r/tests/job" .notFound) ∧
    ((newTest.run [] 2024 { arguments with dryRun := true } tree).report arguments.verbose).output =
      "/r/tests/job/job.pro\n/r/tests/job/CMakeLists.txt\n/r/tests/job/tst_job.cpp\n" ∧
    (newTest.run [] 2024 { refused with dryRun := true } tree).result =
      .error (.validation (.noIdentifier "1Job")) ∧
    newTest.run [] 2024 { refused with dryRun := false } tree =
      newTest.run [] 2024 { refused with dryRun := true } tree := by
  intro arguments refused tree targets
  have hname : IsPlainName "Job" := isIdentifier_iff.mp (by decide +kernel)
  have hdraft : ∀ dryRun, (newTest.draft [] 2024 { arguments with dryRun := dryRun }).result = .ok (⟨"/r"⟩, _) :=
    fun dryRun => draft_newTest hname ..
  have hdry : (newTest.run [] 2024 { arguments with dryRun := true } tree).result = .ok targets := by
    rw [run_of_dryRun rfl (hdraft true)]
    rfl
  have hreal : (newTest.run [] 2024 { arguments with dryRun := false } tree).result =
      .error (.write "/r/tests/job" .notFound) := by
    rw [run_of_wetRun rfl (hdraft false)]
    rfl
  have hrefused : (newTest.run [] 2024 { refused with dryRun := true } tree).result =
      .error (.validation (.noIdentifier "1Job")) := rfl
  have hforetold := dryRun_foretells .newTest [] 2024 arguments tree
  have hboth := dryRun_foretells .newTest [] 2024 refused tree
  exact ⟨hdry, hreal, (hforetold.2.2.2 targets hdry).2.1, hrefused, (hboth.2.2.1 _ hrefused).1⟩

end Scaffold
