import Scaffold.Proofs.Event
import Scaffold.Proofs.ExitCode

/-! The log of a run. A run that shows its log does what it does without: the flag is looked at when all is done. What
the entries of the log name is what was done: the templates that the renderer was asked for, all of them before anything
is written, and the files that were written until the run was through or a step failed. The log shows these entries as
they are unless the root has control characters in it. -/

namespace Scaffold

/-! ### What is asked for -/

theorem asked_eq_nil {events : List Event} (h : ∀ template context, .rendering template context ∉ events) :
    events.filterMap Event.asked? = [] := by
  rw [List.filterMap_eq_nil_iff]
  intro event hmem
  cases event with
  | rendering template context => exact absurd hmem (h template context)
  | _ => rfl

theorem asked_renderKinds {render : Renderer} {context : Value} (profile : Profile) (license : Option License)
    (name : ClassName) (kinds : List ArtifactKind)
    (hrender : ∀ kind : ArtifactKind, ∃ body, render kind.templateName context = .ok body) :
    (renderKinds render profile license name context kinds).events.filterMap Event.asked? =
      kinds.map ArtifactKind.templateName := by
  induction kinds with
  | nil => rfl
  | cons kind kinds ih =>
      obtain ⟨body, hbody⟩ := hrender kind
      rw [renderKinds_cons_of_ok profile license name context kinds hbody, List.filterMap_cons, ih]
      rfl

theorem asked_renderClass (profile : Profile) (license : License) (name : ClassName) (shape : Shape) :
    (renderClass Template.renderer profile license name shape).events.filterMap Event.asked? =
      ArtifactKind.classSet.map ArtifactKind.templateName :=
  asked_renderKinds _ _ _ _ fun kind => ⟨_, renderer_templateName profile name shape kind⟩

theorem asked_renderTest (profile : Profile) (name : ClassName) :
    (renderTest Template.renderer profile name).events.filterMap Event.asked? =
      ArtifactKind.testSet.map ArtifactKind.templateName :=
  asked_renderKinds _ _ _ _ fun kind => ⟨_, renderer_templateName profile name .root kind⟩

/-- A template that is named is asked for behind those that are named before it. -/
theorem Event.exists_of_asked {events : List Event} {before after : List Text} {template : Text}
    (h : events.filterMap Event.asked? = before ++ template :: after) :
    ∃ earlier context later, events = earlier ++ .rendering template context :: later ∧
      earlier.filterMap Event.asked? = before := by
  obtain ⟨first, second, rfl, rfl, hsecond⟩ := List.filterMap_eq_append_iff.mp h
  obtain ⟨between, event, later, rfl, hbetween, hevent, -⟩ := List.filterMap_eq_cons_iff.mp hsecond
  cases event with
  | rendering found context =>
      obtain rfl := Option.some.inj hevent
      refine ⟨first ++ between, context, later, by rw [List.append_assoc], ?_⟩
      rw [List.filterMap_append, List.filterMap_eq_nil_iff.mpr hbetween, List.append_nil]
  | _ => cases hevent

/-- Where all is asked for in one context, renderers agree that fill the templates that are named alike in it. -/
theorem agreesOn_of_context {render other : Renderer} {context : Value} {events : List Event}
    (hcontext : ∀ template found, .rendering template found ∈ events → found = context)
    (h : ∀ template ∈ events.filterMap Event.asked?, other template context = render template context) :
    render.AgreesOn other events := by
  intro template found hmem
  rw [hcontext template found hmem]
  exact h template (List.mem_filterMap.mpr ⟨_, hmem, rfl⟩)

/-- What is told ahead of a rendering that goes well names no template. -/
theorem asked_of_eq_cons {plan told : Told (List Artifact)} {event : Event} {artifacts : List Artifact}
    {templates : List Text} (hplan : plan = ⟨event :: told.events, told.result⟩) (hevent : event.asked? = none)
    (hresult : told.result = .ok artifacts) (hasked : told.events.filterMap Event.asked? = templates) :
    ∃ artifacts, plan.result = .ok artifacts ∧ plan.events.filterMap Event.asked? = templates := by
  subst hplan
  exact ⟨artifacts, hresult, (List.filterMap_cons_none hevent).trans hasked⟩

/-- A plan that is made names the templates of all its files, and one that is not names none. -/
theorem Call.asked_plan (profile : Profile) (call : Call) :
    (∃ artifacts, (call.plan Template.renderer profile).result = .ok artifacts ∧
      (call.plan Template.renderer profile).events.filterMap Event.asked? =
        call.kinds.map ArtifactKind.templateName) ∨
    (∃ error, (call.plan Template.renderer profile).result = .error error ∧
      (call.plan Template.renderer profile).events.filterMap Event.asked? = []) := by
  cases call with
  | newClass license request =>
      rw [Call.plan, Call.kinds]
      rcases request.isAcceptable_or_isRefused with haccept | ⟨fault, hrefused⟩
      · exact Or.inl (asked_of_eq_cons (planClass_of_isAcceptable _ _ _ haccept) rfl (renderClass_result ..)
          (asked_renderClass ..))
      · rw [planClass_of_isRefused _ _ _ hrefused]
        exact Or.inr ⟨_, rfl, rfl⟩
  | newTest className =>
      rw [Call.plan, Call.kinds]
      by_cases hname : IsPlainName className
      · exact Or.inl (asked_of_eq_cons (planTest_of_isPlainName _ _ hname) rfl (renderTest_result ..)
          (asked_renderTest ..))
      · rw [planTest_of_not_isPlainName _ _ hname]
        exact Or.inr ⟨_, rfl, rfl⟩

namespace Command

/-- The kinds of files that a command makes. -/
def kinds : Command → List ArtifactKind
  | .newClass => ArtifactKind.classSet
  | .newTest => ArtifactKind.testSet

/-- The work up to where the file tree is looked at, with any renderer for the files. -/
def prepareWith (render : Renderer) (command : Command) (tool : Text) (year : Int) (arguments : Arguments) :
    Told Agenda := do
  let job ← command.job year arguments
  let layout ← Layout.resolve tool arguments.root
  let artifacts ← job.call.plan render .synqClient
  return job.agenda layout arguments.dryRun artifacts

/-- A run with any renderer for the files. -/
def runWith (render : Renderer) (command : Command) (tool : Text) (year : Int) (arguments : Arguments)
    (tree : FileTree) : Outcome (List Text) :=
  (command.prepareWith render tool year arguments).change Agenda.run tree

variable {command : Command} {tool : Text} {year : Int} {arguments : Arguments} {tree : FileTree}

theorem prepareWith_renderer (command : Command) (tool : Text) (year : Int) (arguments : Arguments) :
    command.prepareWith Template.renderer tool year arguments = command.prepare tool year arguments := by
  rw [prepareWith, prepare]
  simp only [Job.plan_eq]

/-- A dry run prepares no steps. -/
theorem prepare_ne_perform (hdry : arguments.dryRun = true) (steps : List Step) :
    (command.prepare tool year arguments).result ≠ .ok (.perform steps) := by
  rw [prepare_eq]
  cases (command.draft tool year arguments).result with
  | error error => exact nofun
  | ok drafted =>
      intro h
      have hagenda := Except.ok.inj h
      simp only [Job.agenda, hdry, if_true] at hagenda
      cases hagenda

/-! ### Up to the file tree -/

theorem asked_notMem_job (template : Text) (context : Value) :
    .rendering template context ∉ (command.job year arguments).events := by
  intro h
  cases eq_of_mem_job h

theorem asked_notMem_resolve (tool : Text) (root : Option Text) (template : Text) (context : Value) :
    .rendering template context ∉ (Layout.resolve tool root).events := by
  intro h
  obtain ⟨layout, -, hroot⟩ := Layout.eq_of_mem_resolve h
  cases hroot

theorem tellsAsked_prepareWith (command : Command) (tool : Text) (year : Int) (arguments : Arguments)
    (render : Renderer) : TellsAsked render fun render => command.prepareWith render tool year arguments := by
  refine TellsAsked.bind (.of_notMem asked_notMem_job) fun job => ?_
  refine TellsAsked.bind (.of_notMem (asked_notMem_resolve tool arguments.root)) fun layout => ?_
  have hplan : TellsAsked render fun render => job.call.plan render .synqClient := by
    cases job.call with
    | newClass license request => exact tellsAsked_planClass ..
    | newTest className => exact tellsAsked_planTest ..
  exact hplan.bind fun _ => .of_notMem fun _ _ => List.not_mem_nil

/-- Only a plan that is made names templates, and then those of all files. -/
theorem asked_prepare (command : Command) (tool : Text) (year : Int) (arguments : Arguments) :
    (∃ agenda, (command.prepare tool year arguments).result = .ok agenda ∧
      (command.prepare tool year arguments).events.filterMap Event.asked? =
        command.kinds.map ArtifactKind.templateName) ∨
    (∃ error, (command.prepare tool year arguments).result = .error error ∧
      (command.prepare tool year arguments).events.filterMap Event.asked? = []) := by
  have hjob : (command.job year arguments).events.filterMap Event.asked? = [] := asked_eq_nil asked_notMem_job
  have hresolve : (Layout.resolve tool arguments.root).events.filterMap Event.asked? = [] :=
    asked_eq_nil (asked_notMem_resolve tool arguments.root)
  have hkinds : (command.work year arguments).call.kinds = command.kinds := by cases command <;> rfl
  rw [prepare, Told.bind_of_ok (command.job_result year arguments)]
  simp only [List.filterMap_append, hjob, List.nil_append]
  cases hlayout : (Layout.resolve tool arguments.root).result with
  | error error =>
      rw [Told.bind_of_error hlayout]
      exact Or.inr ⟨error, rfl, hresolve⟩
  | ok layout =>
      rw [Told.bind_of_ok hlayout]
      simp only [List.filterMap_append, hresolve, List.nil_append, Job.plan_eq]
      rcases (command.work year arguments).call.asked_plan .synqClient with
        ⟨artifacts, hplan, hasked⟩ | ⟨error, hplan, hasked⟩
      · rw [Told.bind_of_ok hplan, ← hkinds, ← hasked]
        refine Or.inl ⟨_, rfl, ?_⟩
        rw [List.filterMap_append]
        exact List.append_nil _
      · rw [Told.bind_of_error hplan]
        exact Or.inr ⟨error, rfl, hasked⟩

theorem written_draft (command : Command) (tool : Text) (year : Int) (arguments : Arguments) :
    (command.draft tool year arguments).events.filterMap Event.written? = [] :=
  written_eq_nil (command.wrote_notMem_draft tool year arguments)

theorem written_prepare (command : Command) (tool : Text) (year : Int) (arguments : Arguments) :
    (command.prepare tool year arguments).events.filterMap Event.written? = [] := by
  rw [prepare_eq, written_draft]

end Command

/-! ### On the file tree -/

namespace Step

variable {tree later : FileTree} {step : Step} {steps : List Step} {event : Event} {events : List Event}

theorem Does.asked?_eq_none (h : Does tree step event later) : event.asked? = none := by
  cases h <;> rfl

theorem Performed.asked_eq_nil (h : Performed steps events tree later) : events.filterMap Event.asked? = [] := by
  induction h with
  | nil => rfl
  | cons hdoes _ ih => rw [List.filterMap_cons_none hdoes.asked?_eq_none, ih]

end Step

namespace Command

/-- The entries of the log of a run say what the run does: which templates the renderer is asked for, all of them ahead
of the files that are written, and which files these are. -/
structure LogTells (command : Command) (tool : Text) (year : Int) (arguments : Arguments) (tree : FileTree)
    (entries : List LogEntry) : Prop where
  ordered : ∃ planned performed, entries = planned ++ performed ∧
    planned.filterMap (LogEntry.named? "Wrote ") = [] ∧ performed.filterMap (LogEntry.named? "Rendering ") = []
  templates : entries.filterMap (LogEntry.named? "Rendering ") =
    match (command.prepare tool year arguments).result with
    | .ok _ => command.kinds.map ArtifactKind.templateName
    | .error _ => []
  /-- There is one context in which the templates are asked for. Renderers that fill those alike that are named are not
  told apart, and one that fails on one of them, but not on those named before, ends the run there. -/
  asked : ∃ context : Value,
    (∀ render : Renderer,
      (∀ template ∈ entries.filterMap (LogEntry.named? "Rendering "),
        render template context = Template.renderer template context) →
      command.runWith render tool year arguments tree = command.run tool year arguments tree) ∧
    ∀ (render : Renderer) (before after : List Text) (template : Text) (error : Error),
      entries.filterMap (LogEntry.named? "Rendering ") = before ++ template :: after →
      (∀ earlier ∈ before, render earlier context = Template.renderer earlier context) →
      render template context = .error error →
      (command.runWith render tool year arguments tree).result = .error error ∧
      (command.runWith render tool year arguments tree).tree = tree
  /-- Named are the files of the steps that were done, be it all or those ahead of one that failed. -/
  files : match (command.prepare tool year arguments).result with
    | .ok (.perform steps) => ∃ done rest events, steps = done ++ rest ∧
        Step.Performed done events tree (command.run tool year arguments tree).tree ∧
        entries.filterMap (LogEntry.named? "Wrote ") = done.flatMap Step.written ∧
        (rest = [] ∨ ∃ step tail error, rest = step :: tail ∧
          step.perform (command.run tool year arguments tree).tree = .error error)
    | _ => entries.filterMap (LogEntry.named? "Wrote ") = [] ∧ (command.run tool year arguments tree).tree = tree
  dry (hdry : arguments.dryRun = true) : entries.filterMap (LogEntry.named? "Wrote ") = []

/-- What a run does with what was prepared. -/
theorem run_cases (command : Command) (tool : Text) (year : Int) (arguments : Arguments) (tree : FileTree) :
    let prepared := command.prepare tool year arguments
    let outcome := command.run tool year arguments tree
    (((∃ error, prepared.result = .error error) ∨ ∃ targets, prepared.result = .ok (.print targets)) ∧
      outcome.events = prepared.events ∧ outcome.tree = tree) ∨
    (∃ steps done rest events, prepared.result = .ok (.perform steps) ∧ steps = done ++ rest ∧
      Step.Performed done events tree outcome.tree ∧ outcome.events = prepared.events ++ events ∧
      (rest = [] ∨ ∃ step tail error, rest = step :: tail ∧ step.perform outcome.tree = .error error)) := by
  intro prepared outcome
  have houtcome : outcome = prepared.change Agenda.run tree := rfl
  cases hprepared : prepared.result with
  | error error =>
      rw [houtcome, Told.change_of_error hprepared]
      exact Or.inl ⟨Or.inl ⟨error, rfl⟩, rfl, rfl⟩
  | ok agenda =>
      rw [houtcome, Told.change_of_ok hprepared]
      cases agenda with
      | print targets => exact Or.inl ⟨Or.inr ⟨targets, rfl⟩, List.append_nil _, rfl⟩
      | perform steps =>
          obtain ⟨done, rest, events, later, hsteps, hdone, hall, hrest⟩ := Step.performAll_cases steps tree
          have hrun : (Agenda.perform steps).run tree = (Step.performAll steps tree).map fun _ => [] := rfl
          rw [hrun, hall]
          exact Or.inr ⟨steps, done, rest, events, rfl, hsteps, hdone, rfl, hrest⟩

theorem exists_performed (command : Command) (tool : Text) (year : Int) (arguments : Arguments) (tree : FileTree) :
    ∃ performed, (command.run tool year arguments tree).events =
        (command.prepare tool year arguments).events ++ performed ∧
      performed.filterMap Event.asked? = [] := by
  rcases command.run_cases tool year arguments tree with
    ⟨-, hevents, -⟩ | ⟨steps, done, rest, events, -, -, hdone, hevents, -⟩
  · exact ⟨[], by rw [hevents, List.append_nil], rfl⟩
  · exact ⟨events, hevents, hdone.asked_eq_nil⟩

/-- All templates are asked for in one context. -/
theorem exists_context (command : Command) (tool : Text) (year : Int) (arguments : Arguments) :
    ∃ context, ∀ template found, .rendering template found ∈ (command.prepare tool year arguments).events →
      found = context := by
  rw [prepare_eq]
  obtain ⟨context, hevents⟩ := (command.work year arguments).call.exists_context Template.renderer .synqClient
  refine ⟨context, fun template found h => ?_⟩
  rcases mem_draft h with hlicense | ⟨layout, -, hroot⟩ | hplan
  · cases hlicense
  · cases hroot
  · rcases (hevents _ hplan).2 with hplanning | ⟨kind, hasked⟩
    · rcases (command.work year arguments).call.planning_cases with ⟨name, shape, hclass⟩ | ⟨name, htest⟩
      · cases hplanning.trans hclass
      · cases hplanning.trans htest
    · exact (Event.rendering.inj hasked).2

theorem logTells_entries (command : Command) (tool : Text) (year : Int) (arguments : Arguments) (tree : FileTree) :
    command.LogTells tool year arguments tree ((command.run tool year arguments tree).events.map Event.entry) := by
  obtain ⟨performed, hevents, hperformed⟩ := command.exists_performed tool year arguments tree
  have htells := command.tellsAsked_prepareWith tool year arguments Template.renderer
  have hprepare := command.prepareWith_renderer tool year arguments
  have hasked : ((command.run tool year arguments tree).events.map Event.entry).filterMap
      (LogEntry.named? "Rendering ") = (command.prepare tool year arguments).events.filterMap Event.asked? := by
    rw [Event.named_rendering, hevents, List.filterMap_append, hperformed, List.append_nil]
  have hnothing : (command.run tool year arguments tree).events = (command.prepare tool year arguments).events →
      ((command.run tool year arguments tree).events.map Event.entry).filterMap (LogEntry.named? "Wrote ") = [] := by
    intro hsame
    rw [Event.named_wrote, hsame, written_prepare]
  refine ⟨⟨_, performed.map Event.entry, (congrArg _ hevents).trans List.map_append, ?ahead, ?behind⟩, ?templates,
    ?asked, ?files, ?dry⟩
  case ahead => rw [Event.named_wrote, written_prepare]
  case behind => rw [Event.named_rendering, hperformed]
  case templates =>
    rw [hasked]
    rcases command.asked_prepare tool year arguments with
      ⟨agenda, hresult, htemplates⟩ | ⟨error, hresult, htemplates⟩
    · rw [hresult, htemplates]
    · rw [hresult, htemplates]
  case asked =>
    obtain ⟨context, hcontext⟩ := command.exists_context tool year arguments
    rw [hasked]
    refine ⟨context, fun render hagrees => ?_, fun render before after template error hnamed hagrees hfails => ?_⟩
    · have hsame := htells.congr (hprepare.symm ▸ agreesOn_of_context hcontext hagrees)
      rw [runWith, hsame, hprepare, run]
    · obtain ⟨earlier, found, later, hsplit, rfl⟩ := Event.exists_of_asked hnamed
      have hfound : found = context := hcontext template found (hsplit ▸ List.mem_append_right _ List.mem_cons_self)
      have hearlier : Template.renderer.AgreesOn render earlier :=
        agreesOn_of_context (fun template found hmem => hcontext template found
          (hsplit ▸ List.mem_append_left _ hmem)) hagrees
      rw [runWith, htells.stops (hprepare.symm ▸ hsplit) hearlier (hfound ▸ hfails)]
      exact ⟨rfl, rfl⟩
  case files =>
    rcases command.run_cases tool year arguments tree with
      ⟨⟨error, hresult⟩ | ⟨targets, hresult⟩, hsame, htree⟩ |
      ⟨steps, done, rest, events, hresult, hsteps, hdone, hwritten, hrest⟩
    · rw [hresult]
      exact ⟨hnothing hsame, htree⟩
    · rw [hresult]
      exact ⟨hnothing hsame, htree⟩
    · rw [hresult]
      refine ⟨done, rest, events, hsteps, hdone, ?_, hrest⟩
      rw [Event.named_wrote, hwritten, List.filterMap_append, written_prepare, List.nil_append, hdone.written_eq]
  case dry =>
    intro hdry
    rcases command.run_cases tool year arguments tree with ⟨-, hsame, -⟩ | ⟨steps, -, -, -, hresult, -⟩
    · exact hnothing hsame
    · exact absurd hresult (prepare_ne_perform hdry steps)

/-! ### What is shown -/

variable {command : Command} {tool : Text} {year : Int} {arguments : Arguments}

/-- A run prepares steps only if it planned files, and then these are the steps of its call. -/
theorem draft_of_prepare {steps : List Step}
    (h : (command.prepare tool year arguments).result = .ok (.perform steps)) :
    ∃ layout artifacts, (command.draft tool year arguments).result = .ok (layout, artifacts) ∧
      steps = (command.work year arguments).call.steps .synqClient layout artifacts := by
  rw [prepare_eq] at h
  cases hdraft : (command.draft tool year arguments).result with
  | error error =>
      rw [hdraft] at h
      cases h
  | ok drafted =>
      obtain ⟨layout, artifacts⟩ := drafted
      rw [hdraft] at h
      have hagenda := Except.ok.inj h
      refine ⟨layout, artifacts, rfl, ?_⟩
      cases hdry : arguments.dryRun with
      | true =>
          simp only [Job.agenda, hdry, if_true] at hagenda
          cases hagenda
      | false =>
          simp only [Job.agenda, hdry, Bool.false_eq_true, if_false] at hagenda
          rw [← Job.steps_eq, Agenda.perform.inj hagenda]

/-- All that a run tells is visible if its root is. -/
theorem isVisible_text (hroot : ∀ layout, (Layout.resolve tool arguments.root).result = .ok layout →
      layout.root.IsVisible) (tree : FileTree) :
    ∀ event ∈ (command.run tool year arguments tree).events, event.text.IsVisible := by
  have hprepared : ∀ event ∈ (command.prepare tool year arguments).events, event.text.IsVisible := by
    rw [prepare_eq]
    intro event hevent
    rcases mem_draft hevent with rfl | ⟨layout, hlayout, rfl⟩ | hplan
    · exact (Text.IsVisible.ofInt year).prepend (by decide)
    · exact (hroot layout hlayout).prepend (by decide)
    · exact Call.isVisible_of_mem_plan hplan
  rcases command.run_cases tool year arguments tree with
    ⟨-, hevents, -⟩ | ⟨steps, done, rest, events, hresult, rfl, hdone, hevents, -⟩
  · rwa [hevents]
  · obtain ⟨layout, artifacts, hdraft, hsteps⟩ := draft_of_prepare hresult
    obtain ⟨hlayout, hplan⟩ := draft_result_eq_ok_iff.mp hdraft
    rw [Job.plan_eq] at hplan
    obtain ⟨haccepted, content, hcall⟩ := Call.isStep_of_plan layout hplan
    rw [← hsteps] at hcall
    have hpaths : ∀ step ∈ done, step.path.IsVisible := fun step hstep =>
      (hcall step (List.mem_append_left _ hstep)).isVisible_path haccepted (hroot layout hlayout)
    rw [hevents, List.forall_mem_append]
    exact ⟨hprepared, hdone.isVisible_text hpaths⟩

/-- The log of a run shows its entries as they are if the root is visible, so that they can be read back. -/
theorem ofLog?_shown_events (hroot : ∀ layout, (Layout.resolve tool arguments.root).result = .ok layout →
      layout.root.IsVisible) (tree : FileTree) :
    let entries := (command.run tool year arguments tree).events.map Event.entry
    LogEntry.shown entries = entries.flatMap LogEntry.record ∧
      LogEntry.ofLog? (LogEntry.shown entries) = some entries := by
  intro entries
  have hplain : ∀ entry ∈ entries, entry.IsPlain := List.forall_mem_map.mpr fun event _ => event.isPlain_entry
  have hvisible : ∀ entry ∈ entries, entry.record.IsVisible := List.forall_mem_map.mpr fun event hevent =>
    LogEntry.isVisible_record event.isVisible_head (isVisible_text hroot tree event hevent)
  exact ⟨LogEntry.shown_of_isVisible hvisible, LogEntry.ofLog?_shown hplain hvisible⟩

/-! ### The flag -/

theorem run_verbose (command : Command) (tool : Text) (year : Int) (arguments : Arguments) (tree : FileTree)
    (verbose : Bool) :
    command.run tool year { arguments with verbose } tree = command.run tool year arguments tree := by
  have hjob : command.job year { arguments with verbose } = command.job year arguments := by cases command <;> rfl
  rw [run, run, prepare, prepare, hjob]

end Command

/-- The line that tells the error of a run, if there is one. -/
def Told.errorText {α : Type} (told : Told α) : Text :=
  match told.result with
  | .ok _ => []
  | .error error => error.message ++ ['\n']

theorem Told.report_false (told : Told (List Text)) :
    told.report false = ⟨(told.report true).exitCode, (told.report true).output, told.errorText⟩ := by
  cases hresult : told.result with
  | ok lines => simp [report_of_ok hresult, errorText, hresult]
  | error error => simp [report_of_error hresult, errorText, hresult]

theorem Told.report_true_errorOutput (told : Told (List Text)) :
    (told.report true).errorOutput = LogEntry.shown (told.events.map Event.entry) ++ told.errorText := by
  rw [← Event.flatMap_line]
  cases hresult : told.result with
  | ok lines => simp [report_of_ok hresult, errorText, hresult]
  | error error => simp [report_of_error hresult, errorText, hresult]

theorem Invocation.errorOutput_of_verbose {call : Invocation} {arguments : Arguments}
    (h : call.command.parse call.arguments = .ok arguments) (hverbose : arguments.verbose = true) (tree : FileTree) :
    (call.run tree).1.errorOutput =
      LogEntry.shown ((call.command.run call.tool call.year arguments tree).events.map Event.entry) ++
        (call.command.run call.tool call.year arguments tree).errorText := by
  rw [run_of_arguments h, hverbose]
  exact Told.report_true_errorOutput _

end Scaffold
