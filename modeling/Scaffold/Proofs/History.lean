import Scaffold.Proofs.Call
import Scaffold.Proofs.Step

/-! What a location holds after any number of calls, of which each may fail where it likes. A step finds a
directory, makes one or writes a whole file, and a step that is refused does nothing. So a location is as it
was, is a directory that a test was given, or holds what the last of the calls that wrote there had planned
for it. The calls need not agree in anything, and links may lead to one location from many paths. -/

namespace Scaffold

/-! ### Steps that the system may refuse -/

namespace Step

/-- Does a step, unless the system refuses what it asks for, with a fault and without effect. A directory that is
there is as good as a new one, also after a refusal that says so. -/
def performUnder (refusal : Option Fault) (tree : FileTree) (step : Step) : Except Error (Event × FileTree) :=
  match refusal, step with
  | none, step => step.perform tree
  | some fault, .directory path =>
    if fault = .fileExists && tree.isDirectory path then .ok (.foundDirectory path, tree)
    else .error (.write path fault)
  | some fault, .file path _ => .error (.write path fault)

/-- Does steps in order, up to the first that fails or is refused. -/
def performAllUnder (refuses : Step → Option Fault) : List Step → FileTree → Outcome (List Text)
  | [], tree => ⟨⟨[], .ok []⟩, tree⟩
  | step :: steps, tree =>
    match step.performUnder (refuses step) tree with
    | .error error => ⟨⟨[], .error error⟩, tree⟩
    | .ok (event, tree) => ((performAllUnder refuses steps tree).map (step.written ++ ·)).behind [event]

variable {tree later : FileTree} {step : Step} {event : Event}

theorem does_of_performUnder {refusal : Option Fault} (h : step.performUnder refusal tree = .ok (event, later)) :
    Does tree step event later := by
  cases refusal with
  | none => exact does_of_perform h
  | some fault =>
      cases step with
      | directory path =>
          rw [performUnder] at h
          split at h
          next hfound =>
            obtain ⟨rfl, rfl⟩ := Prod.mk.inj (Except.ok.inj h)
            rw [Bool.and_eq_true] at hfound
            exact .found hfound.2
          next => exact nomatch h
      | file path content => exact nomatch h

theorem performAllUnder_none (steps : List Step) (tree : FileTree) :
    performAllUnder (fun _ => none) steps tree = performAll steps tree := by
  induction steps generalizing tree with
  | nil => rfl
  | cons step steps ih =>
      rw [performAllUnder, performAll, performUnder]
      cases step.perform tree with
      | error error => rfl
      | ok answer => simp only [ih]

/-- Wherever it ended, a beginning of the steps was done. -/
theorem performAllUnder_performed (refuses : Step → Option Fault) (steps : List Step) (tree : FileTree) :
    ∃ done, done <+: steps ∧
      Performed done (performAllUnder refuses steps tree).events tree (performAllUnder refuses steps tree).tree := by
  induction steps generalizing tree with
  | nil => exact ⟨[], List.nil_prefix, .nil tree⟩
  | cons step steps ih =>
      rw [performAllUnder]
      cases hstep : step.performUnder (refuses step) tree with
      | error error => exact ⟨[], List.nil_prefix, .nil tree⟩
      | ok answer =>
          obtain ⟨done, hprefix, hdone⟩ := ih answer.2
          exact ⟨step :: done, List.cons_prefix_cons.mpr ⟨rfl, hprefix⟩, .cons (does_of_performUnder hstep) hdone⟩

end Step

/-! ### What becomes of a location -/

/-- What a run left at a location: what it found there, a directory it made, or a file it wrote. The run told the
events, `Made` says for which directories it asked and `Written` which files it wrote. -/
inductive Left (events : List Event) (Made : Text → Prop) (Written : Text → Text → Prop) (tree later : FileTree)
    (place : Location) : Prop
  | untouched (hsame : later.at? place = tree.at? place)
      (hnone : ∀ latest, later.Grows latest → ∀ path, .wrote path ∈ events → latest.locate? path ≠ some place)
  | directory {path : Text} (hmade : Made path) (hpath : later.locate? path = some place)
      (hfree : tree.at? place = none) (hentry : later.at? place = some .directory)
  | file {path content : Text} (hwritten : Written path content) (hpath : later.locate? path = some place)
      (hentry : later.at? place = some (.file content))

namespace Left

variable {events events' : List Event} {Made Made' : Text → Prop} {Written Written' : Text → Text → Prop}
  {tree middle later : FileTree} {place : Location}

theorem imp (h : Left events Made Written tree later place) (hmade : ∀ path, Made path → Made' path)
    (hwritten : ∀ path content, Written path content → Written' path content)
    (hevents : ∀ path, .wrote path ∈ events' → .wrote path ∈ events) :
    Left events' Made' Written' tree later place := by
  cases h with
  | untouched hsame hnone =>
      exact .untouched hsame fun latest hgrows path hpath => hnone latest hgrows path (hevents path hpath)
  | directory h hpath hfree hentry => exact .directory (hmade _ h) hpath hfree hentry
  | file h hpath hentry => exact .file (hwritten _ _ h) hpath hentry

/-- A second run leaves what the first left, unless it makes a directory or writes a file there itself. -/
theorem append (hgrows : tree.Grows middle) (hgrows' : middle.Grows later)
    (h : Left events Made Written tree middle place) (h' : Left events' Made' Written' middle later place) :
    Left (events ++ events') (fun path => Made path ∨ Made' path)
      (fun path content => (Written path content ∧
        ∀ path', .wrote path' ∈ events' → later.locate? path' ≠ some place) ∨ Written' path content)
      tree later place := by
  cases h' with
  | untouched hsame' hnone' =>
      cases h with
      | untouched hsame hnone =>
          refine .untouched (hsame'.trans hsame) fun latest hlatest path hpath => ?_
          rcases List.mem_append.mp hpath with hmem | hmem
          · exact hnone latest (hgrows'.trans hlatest) path hmem
          · exact hnone' latest hlatest path hmem
      | directory hmade hpath hfree hentry =>
          exact .directory (Or.inl hmade) (hgrows'.locate? hpath) hfree (hsame'.trans hentry)
      | file hwritten hpath hentry =>
          exact .file (Or.inl ⟨hwritten, hnone' later (.refl later)⟩) (hgrows'.locate? hpath) (hsame'.trans hentry)
  | directory hmade hpath hfree hentry =>
      have hgrown := hgrows.grown place
      rw [hfree] at hgrown
      exact .directory (Or.inr hmade) hpath hgrown.of_none hentry
  | file hwritten hpath hentry => exact .file (Or.inr hwritten) hpath hentry

end Left

namespace Step

variable {tree later : FileTree} {step : Step} {steps : List Step} {event : Event} {events : List Event}

/-- A step asks for its own directory and writes its own file, and tells the file. -/
theorem Does.left (h : Does tree step event later) (place : Location) :
    Left [event] (fun path => step = .directory path)
      (fun path content => step = .file path content ∧ event = .wrote path) tree later place := by
  have hgrows := h.grows
  cases h with
  | found =>
      refine .untouched rfl fun latest _ path hpath => ?_
      exact absurd (List.mem_singleton.mp hpath) nofun
  | @made path made hmakes hfree =>
      by_cases hplace : place = made
      · subst hplace
        have hentry := FileTree.at?_set_self tree hmakes.ne_nil .directory
        exact .directory rfl ((hmakes.mono hgrows).locate? hentry) hfree hentry
      · refine .untouched (FileTree.at?_set_of_ne tree hplace _) fun latest _ path hpath => ?_
        exact absurd (List.mem_singleton.mp hpath) nofun
  | @written path written content hwrites hwritable =>
      have hentry := FileTree.at?_set_self tree hwrites.ne_nil (.file content)
      have hlocate := (hwrites.mono hgrows).locate? (hentry ▸ Option.some_ne_none _)
      by_cases hplace : place = written
      · subst hplace
        exact .file ⟨rfl, rfl⟩ hlocate hentry
      · refine .untouched (FileTree.at?_set_of_ne tree hplace _) fun latest hlatest path' hpath => ?_
        obtain rfl := Event.wrote.inj (List.mem_singleton.mp hpath)
        rw [hlatest.locate? hlocate]
        exact fun h => hplace (Option.some.inj h).symm

theorem Performed.left (h : Performed steps events tree later) (place : Location) :
    Left events (fun path => .directory path ∈ steps)
      (fun path content => .file path content ∈ steps ∧ .wrote path ∈ events) tree later place := by
  induction h with
  | nil => exact .untouched rfl fun latest _ path hpath => absurd hpath List.not_mem_nil
  | cons hdoes hrest ih =>
      refine (Left.append hdoes.grows hrest.grows (hdoes.left place) ih).imp ?_ ?_ fun path hpath => hpath
      · rintro path (rfl | hmem)
        · exact List.mem_cons_self
        · exact List.mem_cons_of_mem _ hmem
      · rintro path content (⟨⟨rfl, rfl⟩, -⟩ | ⟨hmem, htold⟩)
        · exact ⟨List.mem_cons_self, List.mem_cons_self⟩
        · exact ⟨List.mem_cons_of_mem _ hmem, List.mem_cons_of_mem _ htold⟩

end Step

/-! ### Calls one after the other -/

/-- A call as it is made: with a renderer, and with what the system refuses while it runs. -/
structure Attempt where
  call : Call
  render : Renderer
  refuses : Step → Option Fault

namespace Attempt

variable (profile : Profile) (layout : Layout)

def run (attempt : Attempt) : FileTree → Outcome (List Text) :=
  (attempt.call.plan attempt.render profile).change fun artifacts =>
    Step.performAllUnder attempt.refuses (attempt.call.steps profile layout artifacts)

/-- Unless the system refuses something, making a call is running it. -/
theorem run_of_refuses_none (call : Call) (render : Renderer) (tree : FileTree) :
    Attempt.run profile layout ⟨call, render, fun _ => none⟩ tree = call.run render profile layout tree := by
  have hsteps : (fun artifacts => Step.performAllUnder (fun _ => none) (call.steps profile layout artifacts)) =
      fun artifacts => Step.performAll (call.steps profile layout artifacts) :=
    funext fun artifacts => funext fun tree => Step.performAllUnder_none _ tree
  rw [Call.run_eq, ← hsteps]
  rfl

/-- The file is one that the call plans. -/
def Plans (attempt : Attempt) (artifact : Artifact) : Prop :=
  ∃ artifacts, (attempt.call.plan attempt.render profile).result = .ok artifacts ∧ artifact ∈ artifacts

/-- The attempts with what came of each, and the tree that they leave behind. -/
def runAll : List Attempt → FileTree → List (Attempt × Outcome (List Text)) × FileTree
  | [], tree => ([], tree)
  | attempt :: attempts, tree =>
    let outcome := attempt.run profile layout tree
    let rest := runAll attempts outcome.tree
    ((attempt, outcome) :: rest.1, rest.2)

variable {profile} {layout} {attempt : Attempt} {attempts : List Attempt} {tree : FileTree}

/-- An attempt leads from tree to tree by steps of the plan, if there is one. -/
theorem performed_run (profile : Profile) (layout : Layout) (attempt : Attempt) (tree : FileTree) : ∃ done events,
    (attempt.run profile layout tree).events = (attempt.call.plan attempt.render profile).events ++ events ∧
    Step.Performed done events tree (attempt.run profile layout tree).tree ∧
    ∀ step ∈ done, ∃ artifacts, (attempt.call.plan attempt.render profile).result = .ok artifacts ∧
      step ∈ attempt.call.steps profile layout artifacts := by
  rw [run, Told.change]
  cases hplan : (attempt.call.plan attempt.render profile).result with
  | error error => exact ⟨[], [], (List.append_nil _).symm, .nil tree, fun _ h => absurd h List.not_mem_nil⟩
  | ok artifacts =>
      obtain ⟨done, hprefix, hdone⟩ :=
        Step.performAllUnder_performed attempt.refuses (attempt.call.steps profile layout artifacts) tree
      exact ⟨done, _, rfl, hdone, fun step hstep => ⟨artifacts, rfl, hprefix.subset hstep⟩⟩

theorem mem_of_mem_runAll {record : Attempt × Outcome (List Text)}
    (h : record ∈ (runAll profile layout attempts tree).1) : record.1 ∈ attempts := by
  induction attempts generalizing tree with
  | nil => exact absurd h List.not_mem_nil
  | cons attempt attempts ih =>
      rcases List.mem_cons.mp h with rfl | hmem
      · exact List.mem_cons_self
      · exact List.mem_cons_of_mem _ (ih hmem)

theorem grows_run (attempt : Attempt) (tree : FileTree) : tree.Grows (attempt.run profile layout tree).tree := by
  obtain ⟨done, events, -, hdone, -⟩ := performed_run profile layout attempt tree
  exact hdone.grows

theorem grows_runAll (attempts : List Attempt) (tree : FileTree) :
    tree.Grows (runAll profile layout attempts tree).2 := by
  induction attempts generalizing tree with
  | nil => exact .refl tree
  | cons attempt attempts ih => exact (grows_run attempt tree).trans (ih _)

/-- The test directories that an attempt may make. -/
def MakesDirectory (profile : Profile) (layout : Layout) (attempt : Attempt) (path : Text) : Prop :=
  ∃ className, attempt.call = .newTest className ∧ IsPlainName className ∧
    path = layout.target (profile.testDir (Text.lower className))

/-- The files that an attempt wrote, as it planned and told them. -/
def WroteFile (profile : Profile) (layout : Layout) (attempt : Attempt) (outcome : Outcome (List Text))
    (path content : Text) : Prop :=
  .wrote path ∈ outcome.events ∧
    ∃ artifact, attempt.Plans profile artifact ∧ path = layout.target artifact.path ∧ content = artifact.content

theorem left_run (attempt : Attempt) (tree : FileTree) (place : Location) :
    let outcome := attempt.run profile layout tree
    Left outcome.events (attempt.MakesDirectory profile layout) (attempt.WroteFile profile layout outcome)
      tree outcome.tree place := by
  intro outcome
  obtain ⟨done, events, hevents, hdone, hsteps⟩ := performed_run profile layout attempt tree
  -- Planning writes nothing, so that the files it tells are those of its steps.
  have hwrote : ∀ path, .wrote path ∈ outcome.events ↔ .wrote path ∈ events := by
    intro path
    rw [hevents, List.mem_append, or_iff_right (Call.wrote_notMem_plan path)]
  refine (hdone.left place).imp ?_ ?_ fun path hpath => (hwrote path).mp hpath
  · intro path hstep
    obtain ⟨artifacts, hplan, hmem⟩ := hsteps _ hstep
    obtain ⟨className, hcall, rfl⟩ := Call.directory_mem_steps hmem
    have haccepted := (Call.planned_of_plan hplan).1
    rw [hcall] at haccepted
    exact ⟨className, hcall, haccepted, rfl⟩
  · rintro path content ⟨hstep, htold⟩
    obtain ⟨artifacts, hplan, hmem⟩ := hsteps _ hstep
    obtain ⟨artifact, hartifact, rfl, rfl⟩ := Call.file_mem_steps hmem
    exact ⟨(hwrote _).mpr htold, artifact, ⟨artifacts, hplan, hartifact⟩, rfl, rfl⟩

theorem left_runAll (profile : Profile) (layout : Layout) (attempts : List Attempt) (tree : FileTree)
    (place : Location) :
    let told := (runAll profile layout attempts tree).1
    let later := (runAll profile layout attempts tree).2
    Left (told.flatMap (·.2.events)) (fun path => ∃ attempt ∈ attempts, attempt.MakesDirectory profile layout path)
      (fun path content => ∃ before attempt outcome after, told = before ++ (attempt, outcome) :: after ∧
        attempt.WroteFile profile layout outcome path content ∧
        ∀ record ∈ after, ∀ path', .wrote path' ∈ record.2.events → later.locate? path' ≠ some place)
      tree later place := by
  induction attempts generalizing tree with
  | nil => exact .untouched rfl fun latest _ path hpath => absurd hpath List.not_mem_nil
  | cons attempt attempts ih =>
      intro told later
      refine (Left.append (grows_run attempt tree) (grows_runAll attempts _) (left_run attempt tree place)
        (ih _)).imp ?_ ?_ fun path hpath => hpath
      · rintro path (hmade | ⟨attempt', hmem, hmade⟩)
        · exact ⟨attempt, List.mem_cons_self, hmade⟩
        · exact ⟨attempt', List.mem_cons_of_mem _ hmem, hmade⟩
      · rintro path content (⟨hwrote, hlast⟩ | ⟨before, attempt', outcome, after, htold, hwrote, hlast⟩)
        · refine ⟨[], attempt, _, _, rfl, hwrote, fun record hrecord path' hpath' => ?_⟩
          exact hlast path' (List.mem_flatMap.mpr ⟨record, hrecord, hpath'⟩)
        · exact ⟨_ :: before, attempt', outcome, after, congrArg _ htold, hwrote, hlast⟩

theorem targets_of_plans {artifact : Artifact} (h : attempt.Plans profile artifact) :
    attempt.call.Targets profile layout (layout.target artifact.path) := by
  obtain ⟨artifacts, hplan, hmem⟩ := h
  obtain ⟨haccepted, content, rfl⟩ := Call.planned_of_plan hplan
  obtain ⟨kind, hkind, rfl⟩ := List.mem_map.mp hmem
  exact ⟨haccepted, kind, hkind, rfl⟩

/-- Whatever calls are made one after the other, with whatever names, and wherever each of them fails: what stands
somewhere stays there, but that a file may get another content; the only directories that appear are those of
tests with names that are in order; a file that no accepted call has among its targets keeps its content; and
every file has either the content it had and was not written, or, whole, what the last call that wrote it had
planned for it. -/
theorem holds_last_written (profile : Profile) (layout : Layout) (attempts : List Attempt) (tree : FileTree)
    (place : Location) :
    let told := (runAll profile layout attempts tree).1
    let later := (runAll profile layout attempts tree).2
    (∀ entry, tree.at? place = some entry → later.at? place = some entry ∨
      ∃ old new, entry = .file old ∧ later.at? place = some (.file new)) ∧
    (∀ entry, tree.at? place = none → later.at? place = some entry → entry = .directory ∨
      ∃ content, entry = .file content) ∧
    (tree.at? place ≠ some .directory → later.at? place = some .directory →
      ∃ attempt ∈ attempts, ∃ className, attempt.call = .newTest className ∧ IsPlainName className ∧
        later.locate? (layout.target (profile.testDir (Text.lower className))) = some place) ∧
    ((∀ attempt ∈ attempts, ∀ path, attempt.call.Targets profile layout path → later.locate? path ≠ some place) →
      ∀ content, later.at? place = some (.file content) ↔ tree.at? place = some (.file content)) ∧
    (∀ content, later.at? place = some (.file content) →
      (tree.at? place = some (.file content) ∧
        ∀ record ∈ told, ∀ path, .wrote path ∈ record.2.events → later.locate? path ≠ some place) ∨
      ∃ before attempt outcome after, told = before ++ (attempt, outcome) :: after ∧
        (∃ artifact, attempt.Plans profile artifact ∧ content = artifact.content ∧
          .wrote (layout.target artifact.path) ∈ outcome.events ∧
          later.locate? (layout.target artifact.path) = some place) ∧
        ∀ record ∈ after, ∀ path, .wrote path ∈ record.2.events → later.locate? path ≠ some place) := by
  intro told later
  have hgrown : Grown (tree.at? place) (later.at? place) := (grows_runAll attempts tree).grown place
  have hleft := left_runAll profile layout attempts tree place
  refine ⟨fun entry hentry => ?_, fun entry hfree hentry => ?_, fun hold hentry => ?_, fun huntargeted content => ?_,
    fun content hcontent => ?_⟩
  · rw [hentry] at hgrown
    exact hgrown.same_or_rewritten
  · rw [hfree, hentry] at hgrown
    exact hgrown.directory_or_file
  · cases hleft with
    | untouched hsame => exact absurd (hsame.symm.trans hentry) hold
    | directory hmade hpath =>
        obtain ⟨attempt, hmem, className, hcall, hname, rfl⟩ := hmade
        exact ⟨attempt, hmem, className, hcall, hname, hpath⟩
    | file _ _ hfile => exact nomatch hentry.symm.trans hfile
  · cases hleft with
    | untouched hsame => rw [hsame]
    | directory _ _ hfree hmade =>
        constructor
        · intro hcontent
          exact nomatch hmade.symm.trans hcontent
        · intro hcontent
          exact nomatch hfree.symm.trans hcontent
    | file hwritten hpath _ =>
        obtain ⟨before, attempt, outcome, after, htold, ⟨-, artifact, hplans, rfl, -⟩, -⟩ := hwritten
        have hmem : attempt ∈ attempts := mem_of_mem_runAll (htold ▸ List.mem_append_right _ List.mem_cons_self)
        exact absurd hpath (huntargeted attempt hmem _ (targets_of_plans hplans))
  · cases hleft with
    | untouched hsame hnone =>
        refine Or.inl ⟨hsame ▸ hcontent, fun record hrecord path hpath => ?_⟩
        exact hnone later (.refl later) path (List.mem_flatMap.mpr ⟨record, hrecord, hpath⟩)
    | directory _ _ _ hmade => exact nomatch hmade.symm.trans hcontent
    | @file path content' hwritten hpath hfile =>
        obtain rfl := Entry.file.inj (Option.some.inj (hfile.symm.trans hcontent))
        obtain ⟨before, attempt, outcome, after, htold, ⟨hwrote, artifact, hplans, rfl, rfl⟩, hlast⟩ := hwritten
        exact Or.inr ⟨before, attempt, outcome, after, htold, ⟨artifact, hplans, rfl, hwrote, hpath⟩, hlast⟩

/-- The disk is full when the test of `FOO` is written over that of `Foo`: the directory that the two share is that of
a test, and the source in it is as the last call left it that wrote it. -/
theorem holds_last_written_full_disk :
    let layout : Layout := ⟨"/r"⟩
    let one : Text := "one"
    let texts (text : Text) : Renderer := fun _ _ => .ok text
    let full : Step → Option Fault := fun step =>
      if step = .file "/r/tests/foo/tst_foo.cpp" "two" then some (.os 28) else none
    let attempts : List Attempt :=
      [⟨.newTest "Foo", texts one, fun _ => none⟩, ⟨.newTest "FOO", texts "two", full⟩]
    let tree : FileTree := ⟨[(["r"], .directory), (["r", "tests"], .directory)], []⟩
    let told := (runAll .synqClient layout attempts tree).1
    let later := (runAll .synqClient layout attempts tree).2
    let directory : Location := ["r", "tests", "foo"]
    let source : Location := ["r", "tests", "foo", "tst_foo.cpp"]
    (later.at? directory = some .directory ∧ ∃ attempt ∈ attempts, ∃ className, attempt.call = .newTest className ∧
      later.locate? (layout.target (Profile.synqClient.testDir (Text.lower className))) = some directory) ∧
    (later.at? source = some (.file one) ∧ ∃ before attempt outcome after,
      told = before ++ (attempt, outcome) :: after ∧ (∃ artifact, attempt.Plans .synqClient artifact ∧
        artifact.content = one ∧ .wrote (layout.target artifact.path) ∈ outcome.events)) := by
  intro layout one texts full attempts tree told later directory source
  have hdirectory : later.at? directory = some .directory := by decide +kernel
  have hsource : later.at? source = some (.file one) := by decide +kernel
  obtain ⟨-, -, hmade, -, -⟩ := holds_last_written .synqClient layout attempts tree directory
  obtain ⟨-, -, -, -, hlast⟩ := holds_last_written .synqClient layout attempts tree source
  obtain ⟨attempt, hmem, className, hcall, -, hpath⟩ := hmade (by decide +kernel) hdirectory
  refine ⟨⟨hdirectory, attempt, hmem, className, hcall, hpath⟩, hsource, ?_⟩
  rcases hlast _ hsource with ⟨hold, -⟩ | ⟨before, attempt, outcome, after, htold, hwritten, -⟩
  · exact absurd hold (by decide +kernel)
  · obtain ⟨artifact, hplans, hcontent, hwrote, -⟩ := hwritten
    exact ⟨before, attempt, outcome, after, htold, artifact, hplans, hcontent.symm, hwrote⟩

end Attempt

end Scaffold
