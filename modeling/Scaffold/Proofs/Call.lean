import Scaffold.Proofs.Asking

/-! Calls of the generator. A call asks for a class or for a test. It is planned first, and what it plans is
one file of each kind that belongs to it, at the path of that kind. -/

namespace Scaffold

namespace AskedInOrder

variable {render : Renderer} {context : Value} {file : ArtifactKind → Text → Artifact} {kinds : List ArtifactKind}
  {told : Told (List Artifact)}

theorem files_eq (h : AskedInOrder render context file kinds told) {artifacts : List Artifact}
    (hresult : told.result = .ok artifacts) :
    ∃ body : ArtifactKind → Text, artifacts = kinds.map fun kind => file kind (body kind) := by
  cases h with
  | all body _ => exact ⟨body, (Except.ok.inj hresult).symm⟩
  | stopped => exact nomatch hresult

/-- All that is told is that the renderer is asked, in the one context. -/
theorem exists_asked (h : AskedInOrder render context file kinds told) {event : Event} (hevent : event ∈ told.events) :
    ∃ kind : ArtifactKind, event = kind.asked context := by
  cases h with
  | all =>
      obtain ⟨kind, -, heq⟩ := List.mem_map.mp hevent
      exact ⟨kind, heq.symm⟩
  | stopped =>
      obtain ⟨kind, -, heq⟩ := List.mem_map.mp hevent
      exact ⟨kind, heq.symm⟩

end AskedInOrder

theorem Layout.flatMap_written_fileSteps (layout : Layout) (artifacts : List Artifact) :
    (layout.fileSteps artifacts).flatMap Step.written = artifacts.map (layout.target ·.path) := by
  rw [fileSteps, List.flatMap_map]
  exact (List.map_eq_flatMap ..).symm

/-- A request to generate something. -/
inductive Call where
  | newClass (license : License) (request : ClassRequest)
  | newTest (className : Text)

namespace Call

/-- The spellings of the class that a call is about. -/
def name : Call → ClassName
  | .newClass _ request => .derive request.className
  | .newTest className => .derive className

/-- The kinds of files that a call makes. -/
def kinds : Call → List ArtifactKind
  | .newClass _ _ => ArtifactKind.classSet
  | .newTest _ => ArtifactKind.testSet

/-- What is told ahead of planning. -/
def planning : Call → Event
  | .newClass _ request =>
    .planningClass (.derive request.className) (.ofBase (request.baseName.map ClassName.derive))
  | .newTest className => .planningTest (.derive className)

/-- The names of the call are in order. -/
def IsAccepted : Call → Prop
  | .newClass _ request => request.IsAcceptable
  | .newTest className => IsPlainName className

theorem isParsed_name {call : Call} (h : call.IsAccepted) : call.name.IsParsed := by
  cases call with
  | newClass license request => exact ClassName.isParsed_of_parse (ClassName.parse_of_isPlainName h.className)
  | newTest className => exact ClassName.isParsed_of_parse (ClassName.parse_of_isPlainName h)

section Run

variable (render : Renderer) (profile : Profile) (layout : Layout)

/-- A path at which an accepted call puts a file. -/
def Targets (call : Call) (path : Text) : Prop :=
  call.IsAccepted ∧ ∃ kind ∈ call.kinds, path = layout.target (kind.path profile call.name)

def plan : Call → Told (List Artifact)
  | .newClass license request => planClass render profile license request
  | .newTest className => planTest render profile className

/-- The steps that write what was planned. -/
def steps : Call → List Artifact → List Step
  | .newClass _ _ => layout.fileSteps
  | .newTest className => layout.testSteps profile className

def run : Call → FileTree → Outcome (List Text)
  | .newClass license request => generateClass render profile license layout request
  | .newTest className => generateTest render profile layout className

theorem run_eq (call : Call) (tree : FileTree) : call.run render profile layout tree =
    (call.plan render profile).change
      (fun artifacts => Step.performAll (call.steps profile layout artifacts)) tree := by
  cases call <;> rfl

end Run

variable {render : Renderer} {profile : Profile} {layout : Layout} {call : Call} {artifacts : List Artifact}

/-- A call is refused without a question to the renderer, or its names are in order and the renderer is asked for
its files. -/
theorem plan_cases (render : Renderer) (profile : Profile) (call : Call) :
    (∃ fault, call.plan render profile = ⟨[], .error (.validation fault)⟩) ∨
    (call.IsAccepted ∧ ∃ context, ∃ content : ArtifactKind → Text → Text, ∃ told,
      AskedInOrder render context (fun kind body => ⟨kind, kind.path profile call.name, content kind body⟩)
        call.kinds told ∧
      call.plan render profile = ⟨call.planning :: told.events, told.result⟩) := by
  cases call with
  | newClass license request =>
      rcases request.isAcceptable_or_isRefused with haccept | ⟨fault, hrefused⟩
      · exact Or.inr ⟨haccept, _, _, _, askedInOrder_renderKinds ..,
          planClass_of_isAcceptable render profile license haccept⟩
      · exact Or.inl ⟨fault, planClass_of_isRefused render profile license hrefused⟩
  | newTest className =>
      by_cases hname : IsPlainName className
      · exact Or.inr ⟨hname, _, _, _, askedInOrder_renderKinds .., planTest_of_isPlainName render profile hname⟩
      · exact Or.inl ⟨_, planTest_of_not_isPlainName render profile hname⟩

/-- Only calls whose names are in order are planned, and then a file of each kind. -/
theorem planned_of_plan (h : (call.plan render profile).result = .ok artifacts) : call.IsAccepted ∧
    ∃ content : ArtifactKind → Text,
      artifacts = call.kinds.map fun kind => ⟨kind, kind.path profile call.name, content kind⟩ := by
  rcases call.plan_cases render profile with
    ⟨fault, hplan⟩ | ⟨haccepted, context, content, told, hasked, hplan⟩
  · rw [hplan] at h
    cases h
  · rw [hplan] at h
    obtain ⟨body, rfl⟩ := hasked.files_eq h
    exact ⟨haccepted, fun kind => content kind (body kind), rfl⟩

/-- Planning tells what is planned and, in one context, what the renderer is asked for, and nothing else. -/
theorem exists_context (render : Renderer) (profile : Profile) (call : Call) :
    ∃ context, ∀ event ∈ (call.plan render profile).events,
      call.IsAccepted ∧ (event = call.planning ∨ ∃ kind : ArtifactKind, event = kind.asked context) := by
  rcases call.plan_cases render profile with ⟨fault, hplan⟩ | ⟨haccepted, context, content, told, hasked, hplan⟩
  · rw [hplan]
    exact ⟨.null, fun event hevent => absurd hevent List.not_mem_nil⟩
  · rw [hplan]
    exact ⟨context, fun event hevent => ⟨haccepted, (List.mem_cons.mp hevent).imp_right hasked.exists_asked⟩⟩

theorem planning_cases (call : Call) :
    (∃ name shape, call.planning = .planningClass name shape) ∨ ∃ name, call.planning = .planningTest name := by
  cases call with
  | newClass => exact Or.inl ⟨_, _, rfl⟩
  | newTest => exact Or.inr ⟨_, rfl⟩

theorem wrote_notMem_plan (path : Text) : .wrote path ∉ (call.plan render profile).events := by
  obtain ⟨context, hevents⟩ := call.exists_context render profile
  intro hmem
  rcases (hevents _ hmem).2 with hplanning | ⟨kind, hasked⟩
  · rcases call.planning_cases with ⟨name, shape, hclass⟩ | ⟨name, htest⟩
    · cases hplanning.trans hclass
    · cases hplanning.trans htest
  · cases hasked

/-! ### The steps of a call -/

theorem file_mem_steps {path content : Text} (h : .file path content ∈ call.steps profile layout artifacts) :
    ∃ artifact ∈ artifacts, path = layout.target artifact.path ∧ content = artifact.content := by
  have hfiles : .file path content ∈ layout.fileSteps artifacts := by
    cases call with
    | newClass => exact h
    | newTest className => exact (List.mem_cons.mp h).resolve_left nofun
  obtain ⟨artifact, hmem, hstep⟩ := List.mem_map.mp hfiles
  obtain ⟨rfl, rfl⟩ := Step.file.inj hstep
  exact ⟨artifact, hmem, rfl, rfl⟩

theorem directory_notMem_fileSteps (layout : Layout) (artifacts : List Artifact) (path : Text) :
    .directory path ∉ layout.fileSteps artifacts := by
  intro hmem
  obtain ⟨artifact, -, hstep⟩ := List.mem_map.mp hmem
  exact nomatch hstep

theorem directory_mem_steps {path : Text} (h : .directory path ∈ call.steps profile layout artifacts) :
    ∃ className, call = .newTest className ∧ path = layout.target (profile.testDir (Text.lower className)) := by
  cases call with
  | newClass => exact absurd h (directory_notMem_fileSteps layout artifacts path)
  | newTest className =>
      have hstep := (List.mem_cons.mp h).resolve_right (directory_notMem_fileSteps layout artifacts path)
      exact ⟨className, rfl, Step.directory.inj hstep⟩

end Call

end Scaffold
