import Scaffold.Program
import Scaffold.Proofs.Call
import Scaffold.Proofs.Plan

/-! What a run of the program comes to. Up to where its files are planned a run takes no notice of whether it is a
dry one, and of the tree it takes none at all. From there on a dry run gives the targets of the files, and another
one performs the steps that write them. -/

namespace Scaffold

/-! ### Jobs -/

/-- The call of the generator that a job makes. -/
def Job.call : Job → Call
  | .newClass license request => .newClass license request
  | .newTest className => .newTest className

theorem Job.plan_eq (job : Job) : job.plan = job.call.plan Template.renderer .synqClient := by
  cases job with
  | newClass license request => rw [Job.plan, Job.call, Call.plan]
  | newTest className => rw [Job.plan, Job.call, Call.plan]

theorem Job.steps_eq (layout : Layout) (job : Job) (artifacts : List Artifact) :
    job.steps layout artifacts = job.call.steps .synqClient layout artifacts := by
  cases job <;> rfl

/-- The job of a command for arguments, with the preamble as it is rendered for the year. -/
def Command.work (command : Command) (year : Int) (arguments : Arguments) : Job :=
  match command with
  | .newClass =>
    .newClass ⟨year, Text.ofLines (Content.license .synqClient (Text.ofInt year))⟩
      ⟨arguments.className, arguments.baseClass⟩
  | .newTest => .newTest arguments.className

/-- The preamble never fails, so that there always is a job. -/
theorem Command.job_result (command : Command) (year : Int) (arguments : Arguments) :
    (command.job year arguments).result = .ok (command.work year arguments) := by
  cases command with
  | newClass =>
      rw [Command.job, Told.result_bind, Told.result_tell, License.forYear, renderer_license]
      rfl
  | newTest => rfl

/-! ### Drafts -/

/-- A run up to where its files are planned. -/
def Command.draft (command : Command) (tool : Text) (year : Int) (arguments : Arguments) :
    Told (Layout × List Artifact) := do
  let job ← command.job year arguments
  let layout ← Layout.resolve tool arguments.root
  let artifacts ← job.plan
  return (layout, artifacts)

variable {command : Command} {tool : Text} {year : Int} {arguments : Arguments} {layout : Layout}
  {artifacts : List Artifact}

theorem Command.prepare_eq (command : Command) (tool : Text) (year : Int) (arguments : Arguments) :
    command.prepare tool year arguments = ⟨(command.draft tool year arguments).events,
      (command.draft tool year arguments).result.map fun (layout, artifacts) =>
        (command.work year arguments).agenda layout arguments.dryRun artifacts⟩ := by
  have hjob := command.job_result year arguments
  rw [Command.prepare, Command.draft]
  simp only [bind, Told.andThen, hjob]
  cases hlayout : (Layout.resolve tool arguments.root).result with
  | error error => rfl
  | ok layout =>
      simp only
      cases hplan : (command.work year arguments).plan.result with
      | error error => rfl
      | ok artifacts => rfl

theorem Command.draft_result (command : Command) (tool : Text) (year : Int) (arguments : Arguments) :
    (command.draft tool year arguments).result =
      (Layout.resolve tool arguments.root).result.bind fun layout =>
        (command.work year arguments).plan.result.map fun artifacts => (layout, artifacts) := by
  rw [Command.draft]
  simp only [Told.result_bind, Command.job_result, Except.bind, Told.result_pure]
  cases (Layout.resolve tool arguments.root).result with
  | error error => rfl
  | ok layout =>
      simp only
      cases (command.work year arguments).plan.result with
      | error error => rfl
      | ok artifacts => rfl

theorem Command.draft_result_eq_ok_iff : (command.draft tool year arguments).result = .ok (layout, artifacts) ↔
    (Layout.resolve tool arguments.root).result = .ok layout ∧
    (command.work year arguments).plan.result = .ok artifacts := by
  rw [draft_result]
  cases (Layout.resolve tool arguments.root).result with
  | error error => exact ⟨nofun, fun h => nomatch h.1⟩
  | ok found =>
      cases (command.work year arguments).plan.result with
      | error error => exact ⟨nofun, fun h => nomatch h.2⟩
      | ok planned =>
          constructor
          · intro h
            obtain ⟨rfl, rfl⟩ := Prod.mk.inj (Except.ok.inj h)
            exact ⟨rfl, rfl⟩
          · rintro ⟨hfound, hplanned⟩
            rw [Except.ok.inj hfound, Except.ok.inj hplanned]
            rfl

/-- A test whose name is in order is drafted below the root that is given. -/
theorem Command.draft_newTest {className : Text} (hname : IsPlainName className) (tool : Text) (year : Int)
    (root : Text) (dryRun verbose : Bool) :
    (newTest.draft tool year ⟨className, none, some root, dryRun, verbose⟩).result =
      .ok (⟨root⟩, ArtifactKind.testSet.map (ArtifactKind.planned .synqClient none (.derive className) .root)) := by
  have hplan : (planTest Template.renderer .synqClient className).result = .ok _ :=
    planTest_result_eq_ok_iff.mpr ⟨_, ClassName.parse_of_isPlainName hname, rfl⟩
  exact draft_result_eq_ok_iff.mpr ⟨rfl, hplan⟩

theorem Layout.resolve_cases (tool : Text) (root : Option Text) :
    (∃ layout, (Layout.resolve tool root).result = .ok layout) ∨
    (∃ fault, (Layout.resolve tool root).result = .error (.layout fault)) := by
  cases root with
  | some root => exact Or.inl ⟨⟨root⟩, rfl⟩
  | none =>
      rw [resolve, ofTool]
      split
      · exact Or.inl ⟨_, rfl⟩
      · exact Or.inr ⟨_, rfl⟩

/-- A job is planned exactly if its names are in order; nothing else prevents it. -/
theorem Job.plan_cases (job : Job) :
    (job.call.IsAccepted ∧ ∃ artifacts, job.plan.result = .ok artifacts) ∨
    (¬job.call.IsAccepted ∧ ∃ fault, job.plan.result = .error (.validation fault)) := by
  cases job with
  | newClass license request =>
      rw [Job.plan]
      rcases request.isAcceptable_or_isRefused with haccept | ⟨fault, hrefused⟩
      · exact Or.inl ⟨haccept, _, planClass_result_eq_ok_iff.mpr ⟨_, _, haccept.check, rfl⟩⟩
      · exact Or.inr ⟨hrefused.not_isAcceptable, fault, planClass_result_of_error _ _ _ hrefused.check⟩
  | newTest className =>
      rw [Job.plan]
      by_cases hname : IsPlainName className
      · exact Or.inl ⟨hname, _, planTest_result_eq_ok_iff.mpr ⟨_, ClassName.parse_of_isPlainName hname, rfl⟩⟩
      · exact Or.inr ⟨hname, _, planTest_result_of_error _ _ (ClassName.parse_of_not_isPlainName hname)⟩

/-- A draft fails only for want of a root or for its names. -/
theorem Command.draft_cases (command : Command) (tool : Text) (year : Int) (arguments : Arguments) :
    (∃ layout artifacts, (command.draft tool year arguments).result = .ok (layout, artifacts)) ∨
    (∃ fault, (Layout.resolve tool arguments.root).result = .error (.layout fault) ∧
      (command.draft tool year arguments).result = .error (.layout fault)) ∨
    (∃ fault, ¬(command.work year arguments).call.IsAccepted ∧
      (command.draft tool year arguments).result = .error (.validation fault)) := by
  rw [draft_result]
  rcases Layout.resolve_cases tool arguments.root with ⟨layout, hlayout⟩ | ⟨fault, hlayout⟩
  · rw [hlayout]
    rcases (command.work year arguments).plan_cases with ⟨-, artifacts, hplan⟩ | ⟨hrefused, fault, hplan⟩
    · exact Or.inl ⟨layout, artifacts, by rw [hplan]; rfl⟩
    · exact Or.inr (Or.inr ⟨fault, hrefused, by rw [hplan]; rfl⟩)
  · rw [hlayout]
    exact Or.inr (Or.inl ⟨fault, rfl, rfl⟩)

theorem Command.draft_result_ne_write (path : Text) (fault : Fault) :
    (command.draft tool year arguments).result ≠ .error (.write path fault) := by
  rcases command.draft_cases tool year arguments with ⟨layout, artifacts, h⟩ | ⟨found, -, h⟩ | ⟨found, -, h⟩
  · rw [h]; exact nofun
  · rw [h]; exact nofun
  · rw [h]; exact nofun

theorem Command.eq_of_mem_job {event : Event} (h : event ∈ (command.job year arguments).events) :
    event = .licensing year := by
  cases command with
  | newClass =>
      rw [Command.job] at h
      rcases Told.mem_events_bind h with htell | ⟨_, -, hrest⟩
      · rw [Told.events_tell] at htell
        exact List.mem_singleton.mp htell
      · rcases Told.mem_events_bind hrest with hlicense | ⟨_, -, hpure⟩
        · rw [Told.events_ofExcept] at hlicense
          exact absurd hlicense List.not_mem_nil
        · exact absurd hpure List.not_mem_nil
  | newTest => exact absurd h List.not_mem_nil

theorem Layout.eq_of_mem_resolve {root : Option Text} {event : Event} (h : event ∈ (Layout.resolve tool root).events) :
    ∃ layout, (Layout.resolve tool root).result = .ok layout ∧ event = .resolvedRoot layout.root := by
  cases root with
  | some root => exact absurd h List.not_mem_nil
  | none =>
      rw [Layout.resolve, Layout.ofTool] at h ⊢
      split at h
      next found hfound =>
        rcases Told.mem_events_bind h with htell | ⟨_, -, hpure⟩
        · rw [Told.events_tell] at htell
          exact ⟨⟨found⟩, rfl, List.mem_singleton.mp htell⟩
        · exact absurd hpure List.not_mem_nil
      next => exact absurd h List.not_mem_nil

/-- What a draft tells: the year of the preamble, the root if it was to be found, and how the files are planned. -/
theorem Command.mem_draft {event : Event} (h : event ∈ (command.draft tool year arguments).events) :
    event = .licensing year ∨
    (∃ layout, (Layout.resolve tool arguments.root).result = .ok layout ∧ event = .resolvedRoot layout.root) ∨
    event ∈ ((command.work year arguments).call.plan Template.renderer .synqClient).events := by
  rw [Command.draft] at h
  rcases Told.mem_events_bind h with hjob | ⟨job, hresult, h⟩
  · exact Or.inl (Command.eq_of_mem_job hjob)
  · obtain rfl := Except.ok.inj ((command.job_result year arguments).symm.trans hresult)
    rcases Told.mem_events_bind h with hlayout | ⟨layout, -, h⟩
    · exact Or.inr (Or.inl (Layout.eq_of_mem_resolve hlayout))
    · rcases Told.mem_events_bind h with hplan | ⟨artifacts, -, hpure⟩
      · rw [Job.plan_eq] at hplan
        exact Or.inr (Or.inr hplan)
      · exact absurd hpure List.not_mem_nil

/-- Nothing is written before all is planned. -/
theorem Command.wrote_notMem_draft (command : Command) (tool : Text) (year : Int) (arguments : Arguments)
    (path : Text) : .wrote path ∉ (command.draft tool year arguments).events := by
  intro h
  rcases Command.mem_draft h with hlicense | ⟨layout, -, hroot⟩ | hplan
  · cases hlicense
  · cases hroot
  · exact Call.wrote_notMem_plan path hplan

/-! ### Runs -/

variable {tree : FileTree}

theorem Command.run_of_error {error : Error} (h : (command.draft tool year arguments).result = .error error) :
    command.run tool year arguments tree = ⟨⟨(command.draft tool year arguments).events, .error error⟩, tree⟩ := by
  rw [Command.run, prepare_eq, h]
  rfl

theorem Command.run_of_dryRun (hdry : arguments.dryRun = true)
    (h : (command.draft tool year arguments).result = .ok (layout, artifacts)) :
    command.run tool year arguments tree =
      ⟨⟨(command.draft tool year arguments).events, .ok (artifacts.map (layout.target ·.path))⟩, tree⟩ := by
  rw [Command.run, prepare_eq, h]
  simp only [Told.change, Except.map, Job.agenda, hdry, if_true, Agenda.run, Outcome.behind, List.append_nil]

theorem Command.run_of_wetRun (hdry : arguments.dryRun = false)
    (h : (command.draft tool year arguments).result = .ok (layout, artifacts)) :
    command.run tool year arguments tree =
      ((Step.performAll ((command.work year arguments).steps layout artifacts) tree).map fun _ => []).behind
        (command.draft tool year arguments).events := by
  rw [Command.run, prepare_eq, h]
  simp only [Told.change, Except.map, Job.agenda, hdry, Bool.false_eq_true, if_false, Agenda.run]

theorem Command.run_tree_of_dryRun (hdry : arguments.dryRun = true) :
    (command.run tool year arguments tree).tree = tree := by
  cases hdraft : (command.draft tool year arguments).result with
  | error error => rw [run_of_error hdraft]
  | ok drafted => rw [run_of_dryRun hdry hdraft]

/-! ### What is shown -/

variable {told : Told (List Text)}

/-- A run without an error prints one text to a line. -/
theorem Told.report_of_ok {lines : List Text} (h : told.result = .ok lines) (verbose : Bool) :
    told.report verbose =
      ⟨0, lines.flatMap (· ++ ['\n']), if verbose then told.events.flatMap Event.line else []⟩ := by
  rw [report, h]
  rfl

/-- The message of an error stands behind the log, on a line of its own. -/
theorem Told.report_of_error {error : Error} (h : told.result = .error error) (verbose : Bool) :
    told.report verbose =
      ⟨1, [], (if verbose then told.events.flatMap Event.line else []) ++ (error.message ++ ['\n'])⟩ := by
  have hline : asLines [error.message] = error.message ++ ['\n'] := List.append_nil _
  rw [← hline, report, h]

theorem Told.exitCode_report_eq_zero_iff (told : Told (List Text)) (verbose : Bool) :
    (told.report verbose).exitCode = 0 ↔ ∃ lines, told.result = .ok lines := by
  cases hresult : told.result with
  | ok lines => simp [report_of_ok hresult]
  | error error => simp [report_of_error hresult]

theorem Told.exitCode_report_eq_one_iff (told : Told (List Text)) (verbose : Bool) :
    (told.report verbose).exitCode = 1 ↔ ∃ error, told.result = .error error := by
  cases hresult : told.result with
  | ok lines => simp [report_of_ok hresult]
  | error error => simp [report_of_error hresult]

theorem Told.exitCode_report_ne_two (told : Told (List Text)) (verbose : Bool) :
    (told.report verbose).exitCode ≠ 2 := by
  cases hresult : told.result with
  | ok lines => simp [report_of_ok hresult]
  | error error => simp [report_of_error hresult]

/-- An error is the last that is shown of a run. -/
theorem Told.message_suffix_report {error : Error} (verbose : Bool) (h : told.result = .error error) :
    error.message ++ ['\n'] <:+ (told.report verbose).errorOutput := by
  rw [report_of_error h]
  exact List.suffix_append _ _

end Scaffold
