import Scaffold.Proofs.Obstacle
import Scaffold.Proofs.Session

/-! Runs that keep out of each other's way. Each run is on the track that it would take alone: it has done the
steps that it would have done, and meets the same obstacles, since what others do is nowhere on its way and puts
nothing else at its places. So a run gives what it gives alone, and the tree holds what the runs put into it,
whoever was first. -/

namespace Scaffold

/-- Trees in which the same stands everywhere. -/
structure FileTree.Alike (tree other : FileTree) : Prop where
  workingDirectory_eq : tree.workingDirectory = other.workingDirectory
  at?_eq : ∀ place, tree.at? place = other.at? place

namespace Step

variable {root : Text} {start tree later alone : FileTree} {step : Step} {done deeds : List Step} {event : Event}
  {events : List Event}

/-! ### A run and the run alone -/

/-- The steps that are done by a run that is left alone. -/
def performable : List Step → FileTree → List Step
  | [], _ => []
  | step :: steps, tree =>
    match step.perform tree with
    | .error _ => []
    | .ok (_, later) => step :: performable steps later

theorem performable_subset (steps : List Step) (tree : FileTree) : performable steps tree ⊆ steps := by
  induction steps generalizing tree with
  | nil => exact List.Subset.refl _
  | cons step steps ih =>
      rw [performable]
      split
      · exact List.nil_subset _
      · exact List.cons_subset_cons _ (ih _)

theorem Performed.performable_append (h : Performed done events start tree) (ahead : List Step) :
    performable (done ++ ahead) start = done ++ performable ahead tree := by
  induction h with
  | nil => rfl
  | @cons step steps _ _ _ _ _ hdoes _ ih =>
      rw [List.cons_append, performable, hdoes.perform]
      exact congrArg (step :: ·) ih

theorem Performed.concat (h : Performed done events start tree) (hdoes : Does tree step event later) :
    Performed (done ++ [step]) (events ++ [event]) start later := by
  induction h with
  | nil => exact .cons hdoes (.nil later)
  | cons hfirst _ ih => exact .cons hfirst (ih hdoes)

theorem Built.alike {more : List Step} {other : FileTree} (h : Built root start done tree)
    (h' : Built root start more other) (hmem : ∀ step, step ∈ done ↔ step ∈ more) : tree.Alike other := by
  refine ⟨h.workingDirectory_eq.trans h'.workingDirectory_eq.symm, fun place => ?_⟩
  by_cases hstands : ∃ step ∈ done, step.Stands root start place
  · obtain ⟨step, hstep, hplace⟩ := hstands
    rw [(h.stands step hstep place hplace).1, (h'.stands step ((hmem step).mp hstep) place hplace).1]
  · have hnone : ∀ step ∈ done, ¬step.Stands root start place :=
      fun step hstep hplace => hstands ⟨step, hstep, hplace⟩
    rw [h.kept place hnone, h'.kept place fun step hstep => hnone step ((hmem step).mpr hstep)]

/-- What a run has done alone as well, which led to a tree of its own, and which is among all that was done. -/
structure Reached (root : Text) (start : FileTree) (deeds done : List Step) (alone : FileTree) : Prop where
  performed : ∃ events, Performed done events start alone
  built : Built root start done alone
  subset : done ⊆ deeds

namespace Reached

theorem mono {more : List Step} (h : Reached root start deeds done alone) (hmore : deeds ⊆ more) :
    Reached root start more done alone :=
  ⟨h.performed, h.built, List.Subset.trans h.subset hmore⟩

/-- What a run does now it would have done alone. -/
theorem does (h : Reached root start deeds done alone) (hlinks : start.LinkFree)
    (hbuilt : Built root start deeds tree) (hfits : Fits root deeds done step) (hdoes : Does tree step event later) :
    Built root start (step :: deeds) later ∧
      ∃ alone', Reached root start (step :: deeds) (done ++ [step]) alone' := by
  have hlater : Built root start (step :: deeds) later :=
    hbuilt.does hlinks hfits (List.Subset.refl _) (fun _ => List.mem_cons.trans or_comm) hdoes
  have hobstacle : step.obstacle alone = none :=
    (h.built.obstacle_eq hbuilt h.subset hfits).symm.trans
      (obstacle_of_does (hbuilt.linkFree hlinks) hfits.isBelow hdoes)
  obtain ⟨event', alone', hdoes'⟩ := does_of_obstacle (h.built.linkFree hlinks) hfits.isBelow hobstacle
  obtain ⟨events, hperformed⟩ := h.performed
  refine ⟨hlater, alone', ⟨_, hperformed.concat hdoes'⟩, ?_, ?_⟩
  · exact h.built.does hlinks hfits h.subset (fun builder => by simp) hdoes'
  · intro builder hbuilder
    rcases List.mem_append.mp hbuilder with hdone | hstep
    · exact List.mem_cons_of_mem _ (h.subset hdone)
    · exact List.mem_singleton.mp hstep ▸ List.mem_cons_self

/-- Where a run fails now it would have failed alone, with the same error. -/
theorem fails (h : Reached root start deeds done alone) (hlinks : start.LinkFree)
    (hbuilt : Built root start deeds tree) (hfits : Fits root deeds done step) {error : Error}
    (herror : step.perform tree = .error error) : step.perform alone = .error error := by
  obtain ⟨fault, hobstacle, rfl⟩ := obstacle_of_perform (hbuilt.linkFree hlinks) hfits.isBelow herror
  rw [h.built.obstacle_eq hbuilt h.subset hfits] at hobstacle
  exact perform_of_obstacle (h.built.linkFree hlinks) hfits.isBelow hobstacle

end Reached

end Step

namespace Stage

open Step

/-- The steps ahead of a run. -/
def ahead : Stage → List Step
  | .ready _ ahead => ahead
  | .looking path _ ahead => .directory path :: ahead
  | .failed _ => []

/-- A run that is where it started or at a place that it would have come to alone. -/
inductive OnTrack (root : Text) (start : FileTree) (deeds : List Step) (tree : FileTree) : Stage → Stage → Prop
  | refused (error : Error) : OnTrack root start deeds tree (.failed error) (.failed error)
  | ready {done : List Step} {alone : FileTree} (hreached : Reached root start deeds done alone)
      (ahead : List Step) :
      OnTrack root start deeds tree (.ready [] (done ++ ahead)) (.ready (done.flatMap written) ahead)
  | looking {done : List Step} {alone : FileTree} (hreached : Reached root start deeds done alone) {path : Text}
      {place : Location} (hplace : alone.placeOf path = .ok place) (hentry : tree.at? place ≠ none)
      (ahead : List Step) : OnTrack root start deeds tree (.ready [] (done ++ .directory path :: ahead))
        (.looking path (done.flatMap written) ahead)
  | failed {done : List Step} {alone : FileTree} (hreached : Reached root start deeds done alone) {step : Step}
      {error : Error} (herror : step.perform alone = .error error) (ahead : List Step) :
      OnTrack root start deeds tree (.ready [] (done ++ step :: ahead)) (.failed error)

variable {root : Text} {start tree later : FileTree} {deeds more : List Step} {first stage : Stage}

/-- What others do takes no run off its track. -/
theorem OnTrack.mono (h : OnTrack root start deeds tree first stage) (hmore : deeds ⊆ more)
    (hgrows : tree.Grows later) : OnTrack root start more later first stage := by
  cases h with
  | refused error => exact .refused error
  | ready hreached ahead => exact .ready (hreached.mono hmore) ahead
  | @looking done alone hreached path place hplace hentry ahead =>
      refine .looking (hreached.mono hmore) hplace ?_ ahead
      obtain ⟨entry, hentry⟩ := Option.ne_none_iff_exists'.mp hentry
      have hgrown := hgrows.grown place
      rw [hentry] at hgrown
      obtain ⟨entry', hentry', -⟩ := hgrown.exists_of_some
      rw [hentry']
      exact Option.some_ne_none _
  | failed hreached herror ahead => exact .failed (hreached.mono hmore) herror ahead

/-- A run that is over gave what it gives alone, and all that it does alone was done. -/
theorem OnTrack.result_eq (h : OnTrack root start deeds tree first stage)
    {result : Except Error (List Text)} (hresult : stage.result? = some result) :
    result = (first.finish start).1 ∧ performable first.ahead start ⊆ deeds := by
  cases h with
  | refused error => exact ⟨(Option.some.inj hresult).symm, List.nil_subset _⟩
  | @ready done alone hreached steps =>
      cases steps with
      | cons step steps => exact absurd hresult.symm (Option.some_ne_none _)
      | nil =>
          obtain ⟨events, hperformed⟩ := hreached.performed
          refine ⟨?_, ?_⟩
          · rw [finish, (performAll_of_performed hperformed []).1]
            rw [← Option.some.inj hresult]
            simp [performAll, Except.map]
          · rw [ahead, hperformed.performable_append, performable, List.append_nil]
            exact hreached.subset
  | looking => exact absurd hresult.symm (Option.some_ne_none _)
  | @failed done alone hreached step error herror steps =>
      obtain ⟨events, hperformed⟩ := hreached.performed
      refine ⟨?_, ?_⟩
      · rw [finish, (performAll_of_performed hperformed _).1, performAll, herror]
        exact (Option.some.inj hresult).symm
      · rw [ahead, hperformed.performable_append, performable, herror, List.append_nil]
        exact hreached.subset

/-- What an action of a run comes to: the tree still holds what was done, perhaps with one step more, which the run
does alone as well, and the run is on its track. -/
def KeepsTrack (root : Text) (start : FileTree) (deeds : List Step) (tree : FileTree) (first : Stage)
    (acted : Stage × FileTree) : Prop :=
  tree.Grows acted.2 ∧ ∃ more, deeds ⊆ more ∧ Built root start more acted.2 ∧
    OnTrack root start more acted.2 first acted.1 ∧
    ∀ step ∈ more, step ∈ deeds ∨ step ∈ performable first.ahead start

theorem keepsTrack_of_onTrack (hbuilt : Built root start deeds tree)
    (h : OnTrack root start deeds tree first stage) : KeepsTrack root start deeds tree first (stage, tree) :=
  ⟨.refl tree, deeds, List.Subset.refl _, hbuilt, h, fun _ => Or.inl⟩

theorem keepsTrack_of_does {done : List Step} {alone : FileTree} {step : Step} {event : Event}
    (hlinks : start.LinkFree) (hbuilt : Built root start deeds tree) (hreached : Reached root start deeds done alone)
    (hfits : Fits root deeds done step) (hdoes : Does tree step event later) (steps : List Step) :
    KeepsTrack root start deeds tree (.ready [] (done ++ step :: steps))
      (.ready (done.flatMap written ++ step.written) steps, later) := by
  obtain ⟨hlater, alone', hreached'⟩ := hreached.does hlinks hbuilt hfits hdoes
  refine ⟨hdoes.grows, step :: deeds, List.subset_cons_self _ _, hlater, ?_, fun builder hbuilder => ?_⟩
  · have htrack : OnTrack root start (step :: deeds) later _ _ := .ready hreached' steps
    rwa [List.append_assoc, List.flatMap_append, List.flatMap_singleton] at htrack
  · rcases List.mem_cons.mp hbuilder with rfl | hdeed
    · obtain ⟨events, hperformed⟩ := hreached'.performed
      right
      have hsteps : done ++ builder :: steps = (done ++ [builder]) ++ steps := by simp
      rw [ahead, hsteps, hperformed.performable_append]
      simp
    · exact Or.inl hdeed

theorem keepsTrack_of_fails {done steps : List Step} {alone : FileTree} {step : Step} {error : Error}
    (hlinks : start.LinkFree) (hbuilt : Built root start deeds tree) (hreached : Reached root start deeds done alone)
    (hfits : Fits root deeds done step) (herror : step.perform tree = .error error) :
    KeepsTrack root start deeds tree (.ready [] (done ++ step :: steps)) (.failed error, tree) :=
  keepsTrack_of_onTrack hbuilt (.failed hreached (hreached.fails hlinks hbuilt hfits herror) steps)

section Acts

variable {done : List Step} {alone : FileTree} {path : Text}

theorem keepsTrack_directory (hlinks : start.LinkFree) (hbuilt : Built root start deeds tree)
    (hreached : Reached root start deeds done alone) (hfits : Fits root deeds done (.directory path))
    (steps : List Step) : KeepsTrack root start deeds tree (.ready [] (done ++ .directory path :: steps))
      ((ready (done.flatMap written) (.directory path :: steps)).act tree) := by
  obtain ⟨name, hends⟩ := Scaffold.IsBelow.endsIn hfits.isBelow
  rw [Stage.act]
  split
  next later hcreate =>
    obtain ⟨place, hmakes, hnone, rfl⟩ := FileTree.createDirectory_eq_ok_iff.mp hcreate
    have hkeeps := keepsTrack_of_does hlinks hbuilt hreached hfits (.made hmakes hnone) steps
    rwa [written, List.append_nil] at hkeeps
  next fault hcreate =>
    split
    next hexists =>
      -- Something is there already; what it is will be seen with the next action.
      rcases FileTree.cases_of_createDirectory (hbuilt.linkFree hlinks) hends hcreate with
        ⟨-, hne⟩ | ⟨-, place, entry, hplace, hentry⟩
      · exact absurd hexists hne
      · rw [hreached.built.placeOf_eq hbuilt hreached.subset hfits] at hplace
        exact keepsTrack_of_onTrack hbuilt (.looking hreached hplace (hentry ▸ Option.some_ne_none _) steps)
    next hne =>
      refine keepsTrack_of_fails hlinks hbuilt hreached hfits ?_
      rw [perform, hcreate]
      simp [hne]

theorem keepsTrack_file {content : Text} (hlinks : start.LinkFree) (hbuilt : Built root start deeds tree)
    (hreached : Reached root start deeds done alone) (hfits : Fits root deeds done (.file path content))
    (steps : List Step) : KeepsTrack root start deeds tree (.ready [] (done ++ .file path content :: steps))
      ((ready (done.flatMap written) (.file path content :: steps)).act tree) := by
  rw [Stage.act]
  split
  next later hwrite =>
    obtain ⟨place, hwrites, hwritable, rfl⟩ := FileTree.writeFile_eq_ok_iff.mp hwrite
    exact keepsTrack_of_does hlinks hbuilt hreached hfits (.written content hwrites hwritable) steps
  next fault hwrite =>
    refine keepsTrack_of_fails hlinks hbuilt hreached hfits ?_
    rw [perform, hwrite]

/-- What prevented the directory from being made is still there. If it is no directory, the run alone fails at it
too. -/
theorem keepsTrack_looking {place : Location} (hlinks : start.LinkFree) (hbuilt : Built root start deeds tree)
    (hreached : Reached root start deeds done alone) (hfits : Fits root deeds done (.directory path))
    (hplace : alone.placeOf path = .ok place) (hentry : tree.at? place ≠ none) (steps : List Step) :
    KeepsTrack root start deeds tree (.ready [] (done ++ .directory path :: steps))
      ((looking path (done.flatMap written) steps).act tree) := by
  obtain ⟨name, hends⟩ := Scaffold.IsBelow.endsIn hfits.isBelow
  rw [Step.path] at hends
  rw [Stage.act]
  split
  next hfound =>
    have hkeeps := keepsTrack_of_does hlinks hbuilt hreached hfits (.found hfound) steps
    rwa [written, List.append_nil] at hkeeps
  next hfound =>
    refine keepsTrack_of_fails hlinks hbuilt hreached hfits ?_
    have hplace' : tree.placeOf path = .ok place :=
      (hreached.built.placeOf_eq hbuilt hreached.subset hfits).trans hplace
    obtain ⟨entry, hentry⟩ := Option.ne_none_iff_exists'.mp hentry
    have hcreate : tree.createDirectory path = .error .fileExists := by
      rw [FileTree.createDirectory_eq (hbuilt.linkFree hlinks) hends, hplace']
      simp only [Except.bind, hentry]
    rw [perform, hcreate]
    simp [hfound]

end Acts

/-- An action keeps a run on its track, if its steps fit in with all that was done. -/
theorem OnTrack.act (hlinks : start.LinkFree) (hbuilt : Built root start deeds tree)
    (hfits : ∀ done step steps, first.ahead = done ++ step :: steps → Fits root deeds done step)
    (h : OnTrack root start deeds tree first stage) :
    KeepsTrack root start deeds tree first (stage.act tree) := by
  cases h with
  | refused error => exact keepsTrack_of_onTrack hbuilt (.refused error)
  | failed hreached herror steps => exact keepsTrack_of_onTrack hbuilt (.failed hreached herror steps)
  | @ready done alone hreached steps =>
      cases steps with
      | nil => exact keepsTrack_of_onTrack hbuilt (.ready hreached [])
      | cons step steps =>
          have hfit := hfits done step steps rfl
          cases step with
          | directory path => exact keepsTrack_directory hlinks hbuilt hreached hfit steps
          | file path content => exact keepsTrack_file hlinks hbuilt hreached hfit steps
  | @looking done alone hreached path place hplace hentry steps =>
      have hfit := hfits done (.directory path) steps rfl
      exact keepsTrack_looking hlinks hbuilt hreached hfit hplace hentry steps

end Stage

/-! ### All runs together -/

namespace Session

open Step

/-- Every step of every run fits in with the steps of all of them. -/
def KeepApart {n : Nat} (root : Text) (runs : Fin n → List Step) : Prop :=
  ∀ i j done step steps, runs i = done ++ step :: steps → Fits root (runs j) done step

/-- The tree holds what was done by now, the runs do it alone as well, and all of them are on their tracks. -/
structure OnTrack {n : Nat} (root : Text) (start : FileTree) (first : Fin n → Stage) (deeds : List Step)
    (session : Session n) : Prop where
  built : Built root start deeds session.tree
  performable : ∀ step ∈ deeds, ∃ i, step ∈ performable (first i).ahead start
  runs : ∀ i, Stage.OnTrack root start deeds session.tree (first i) (session.runs i)

variable {n : Nat} {root : Text} {start : FileTree} {first : Fin n → Stage} {deeds more : List Step}
  {session other : Session n}

theorem fits_of_keepApart (hapart : KeepApart root fun i => (first i).ahead)
    (hdeeds : ∀ step ∈ deeds, ∃ i, step ∈ Step.performable (first i).ahead start) {i : Fin n} {done steps : List Step}
    {step : Step} (h : (first i).ahead = done ++ step :: steps) : Fits root deeds done step := by
  have hrun : ∀ builder ∈ deeds, ∃ j, builder ∈ (first j).ahead := by
    intro builder hbuilder
    obtain ⟨j, hj⟩ := hdeeds builder hbuilder
    exact ⟨j, performable_subset _ _ hj⟩
  refine ⟨(hapart i i done step steps h).isBelow, fun builder hbuilder hway => ?_, fun builder hbuilder heq => ?_⟩
  · obtain ⟨j, hj⟩ := hrun builder hbuilder
    exact (hapart i j done step steps h).way builder hj hway
  · obtain ⟨j, hj⟩ := hrun builder hbuilder
    exact (hapart i j done step steps h).same builder hj heq

theorem OnTrack.turn (hlinks : start.LinkFree) (hapart : KeepApart root fun i => (first i).ahead)
    (h : OnTrack root start first deeds session) (i : Fin n) :
    ∃ more, OnTrack root start first more (session.turn i) := by
  obtain ⟨hgrows, more, hmore, hbuilt, htrack, hdeeds⟩ :=
    (h.runs i).act hlinks h.built fun done step steps => fits_of_keepApart hapart h.performable
  refine ⟨more, hbuilt, fun step hstep => ?_, fun j => ?_⟩
  · rcases hdeeds step hstep with hdeed | hperformable
    · exact h.performable step hdeed
    · exact ⟨i, hperformable⟩
  · by_cases hj : j = i
    · subst hj
      rw [runs_turn_self]
      exact htrack
    · rw [runs_turn_of_ne _ hj]
      exact (h.runs j).mono hmore hgrows

theorem OnTrack.play (hlinks : start.LinkFree) (hapart : KeepApart root fun i => (first i).ahead)
    (h : OnTrack root start first deeds session) (schedule : List (Fin n)) :
    ∃ more, OnTrack root start first more (session.play schedule) := by
  induction schedule generalizing session deeds with
  | nil => exact ⟨deeds, h⟩
  | cons i schedule ih =>
      obtain ⟨more, hturn⟩ := h.turn hlinks hapart i
      exact ih hturn

/-- When all runs are over, what was done is what each of them does alone. -/
theorem OnTrack.mem_deeds_iff (h : OnTrack root start first deeds session)
    (hover : ∀ i, (session.runs i).result? ≠ none) (step : Step) :
    step ∈ deeds ↔ ∃ i, step ∈ Step.performable (first i).ahead start := by
  constructor
  · exact h.performable step
  · rintro ⟨i, hstep⟩
    obtain ⟨result, hresult⟩ := Option.ne_none_iff_exists'.mp (hover i)
    exact ((h.runs i).result_eq hresult).2 hstep

theorem OnTrack.alike (h : OnTrack root start first deeds session) (h' : OnTrack root start first more other)
    (hover : ∀ i, (session.runs i).result? ≠ none) (hover' : ∀ i, (other.runs i).result? ≠ none) :
    session.tree.Alike other.tree :=
  h.built.alike h'.built fun step => (h.mem_deeds_iff hover step).trans (h'.mem_deeds_iff hover' step).symm

end Session

end Scaffold
