import Scaffold.Proofs.Interleaving
import Scaffold.Proofs.Placement

/-! Calls that are made at once. Calls for different classes, none of which is called what the private files of
another are called, and for tests, among which one directory is that of one name, keep out of each other's way:
classes go to other directories than tests, files of different classes have different names, and a directory of
a test is built by the calls for this test only, all of which write the same into it. -/

namespace Scaffold

namespace Call

/-- The calls may be made at once: classes have no files in common, tests with one directory are one test. -/
def Apart : Call → Call → Prop
  | .newClass _ request, .newClass _ other =>
    (ClassName.derive request.className).lower ≠ (ClassName.derive other.className).lower ∧
    ¬(ClassName.derive request.className).IsPrivateOf (.derive other.className) ∧
    ¬(ClassName.derive other.className).IsPrivateOf (.derive request.className)
  | .newTest className, .newTest other => Text.lower className = Text.lower other → className = other
  | .newClass _ _, .newTest _ => True
  | .newTest _, .newClass _ _ => True

variable {render : Renderer} {layout : Layout} {call other : Call} {content content' : ArtifactKind → Text}
  {step builder : Step}

/-! ### Where the steps of calls meet -/

theorem isStep_of_mem_start (render : Renderer) (layout : Layout) (call : Call) : ∃ content,
    ∀ step ∈ (call.start render .synqClient layout).ahead, call.IsAccepted ∧ IsStep layout call content step := by
  rw [start]
  cases hplan : (call.plan render .synqClient).result with
  | error error => exact ⟨fun _ => [], fun step hstep => absurd hstep List.not_mem_nil⟩
  | ok artifacts =>
      obtain ⟨haccepted, content, hsteps⟩ := isStep_of_plan layout hplan
      exact ⟨content, fun step hstep => ⟨haccepted, hsteps step hstep⟩⟩

/-- The directory of a test is ahead of all else. -/
theorem directory_mem_of_ahead {className path text : Text} {done steps : List Step}
    (h : ((Call.newTest className).start render .synqClient layout).ahead = done ++ .file path text :: steps) :
    .directory (layout.target (Profile.synqClient.testDir (Text.lower className))) ∈ done := by
  rw [start] at h
  cases hplan : ((Call.newTest className).plan render .synqClient).result with
  | error error =>
      rw [hplan] at h
      exact absurd h.symm (List.append_ne_nil_of_right_ne_nil _ (List.cons_ne_nil _ _))
  | ok artifacts =>
      rw [hplan] at h
      cases done with
      | nil =>
          have hfirst := (List.cons.inj h).1
          cases hfirst
      | cons first done =>
          obtain ⟨rfl, -⟩ := List.cons.inj h
          exact List.mem_cons_self

/-- The directory that all files of a call are in. -/
def top : Call → Text
  | .newClass _ _ => "libsynqclient"
  | .newTest _ => "tests"

theorem IsStep.head?_below (haccepted : call.IsAccepted) (h : IsStep layout call content step) :
    (step.below layout.root).head? = some call.top := by
  cases h with
  | directory hcall =>
      subst hcall
      rw [below_directory haccepted]
      rfl
  | @file kind hkind =>
      rw [below_file haccepted]
      cases call with
      | newClass => exact ArtifactKind.head?_namesBelow_of_classSet hkind _
      | newTest =>
          rw [ArtifactKind.namesBelow_of_testSet hkind]
          rfl

theorem IsStep.below_of_test {className : Text} (haccepted : (Call.newTest className).IsAccepted)
    (h : IsStep layout (.newTest className) content step) :
    (step.below layout.root)[1]? = some (Text.lower className) := by
  cases h with
  | directory hcall =>
      obtain rfl := Call.newTest.inj hcall
      rw [below_directory haccepted]
      rfl
  | file hkind =>
      rw [below_file haccepted, ArtifactKind.namesBelow_of_testSet hkind]
      rfl

/-- Files of different classes that may be made at once are at different places. -/
theorem eq_of_class_file {license license' : License} {request request' : ClassRequest}
    (h : Call.newClass license request = .newClass license' request' ∨
      (Call.newClass license request).Apart (.newClass license' request'))
    (haccepted : (Call.newClass license request).IsAccepted)
    (haccepted' : (Call.newClass license' request').IsAccepted) {kind kind' : ArtifactKind}
    (hkind : kind ∈ ArtifactKind.classSet) (hkind' : kind' ∈ ArtifactKind.classSet)
    (heq : kind'.namesBelow (Call.newClass license' request').name =
      kind.namesBelow (Call.newClass license request).name) :
    Call.newClass license request = .newClass license' request' := by
  refine h.resolve_right fun hapart => ?_
  have hfile := (List.cons.inj (List.append_inj' heq rfl).2).1
  rcases ClassName.lower_eq_or_of_fileName_eq (isParsed_name haccepted') (isParsed_name haccepted) hkind' hkind hfile
    with hlower | hprivate | hprivate
  · exact hapart.1 hlower.symm
  · exact hapart.2.2 hprivate
  · exact hapart.2.1 hprivate

theorem eq_of_lower_eq {className className' : Text}
    (h : Call.newTest className = .newTest className' ∨ (Call.newTest className).Apart (.newTest className'))
    (hlower : Text.lower className' = Text.lower className) : className' = className := by
  rcases h with heq | hapart
  · exact (Call.newTest.inj heq).symm
  · exact (hapart hlower.symm).symm

theorem top_newTest_ne_top_newClass (className : Text) (license : License) (request : ClassRequest) :
    (Call.newTest className).top ≠ (Call.newClass license request).top := by
  change ("tests" : Text) ≠ "libsynqclient"
  decide

/-- Steps with one place are steps of one call. -/
theorem eq_of_below_eq (h : call = other ∨ call.Apart other) (haccepted : call.IsAccepted)
    (haccepted' : other.IsAccepted) (hstep : IsStep layout call content step)
    (hbuilder : IsStep layout other content' builder)
    (heq : builder.below layout.root = step.below layout.root) : call = other := by
  have htop : other.top = call.top := by
    have hhead := hbuilder.head?_below haccepted'
    rw [heq, hstep.head?_below haccepted] at hhead
    exact (Option.some.inj hhead).symm
  cases call with
  | newClass license request =>
      cases other with
      | newTest => exact absurd htop (top_newTest_ne_top_newClass _ _ _)
      | newClass license' request' =>
          obtain ⟨hcall⟩ | ⟨hkind⟩ := hstep
          · exact nomatch hcall
          · obtain ⟨hcall⟩ | ⟨hkind'⟩ := hbuilder
            · exact nomatch hcall
            · rw [below_file haccepted, below_file haccepted'] at heq
              exact eq_of_class_file h haccepted haccepted' hkind hkind' heq
  | newTest className =>
      cases other with
      | newClass => exact absurd htop.symm (top_newTest_ne_top_newClass _ _ _)
      | newTest className' =>
          have hlower : Text.lower className' = Text.lower className := by
            have hsecond := hbuilder.below_of_test haccepted'
            rw [heq, hstep.below_of_test haccepted] at hsecond
            exact (Option.some.inj hsecond).symm
          rw [eq_of_lower_eq h hlower]

/-- What stands on the way to a file of a test is the directory that the same test has made. -/
theorem eq_directory_of_way (h : call = other ∨ call.Apart other) (haccepted : call.IsAccepted)
    (haccepted' : other.IsAccepted) (hstep : IsStep layout call content step)
    (hbuilder : IsStep layout other content' builder)
    (hway : builder.below layout.root <+: (step.below layout.root).dropLast) :
    ∃ className path text, call = .newTest className ∧ step = .file path text ∧
      builder = .directory (layout.target (Profile.synqClient.testDir (Text.lower className))) := by
  have hlength := hway.length_le
  have htop : other.top = call.top := by
    obtain ⟨more, hmore⟩ := hway.trans (List.dropLast_prefix _)
    have hhead := hstep.head?_below haccepted
    rw [← hmore, List.head?_append, hbuilder.head?_below haccepted'] at hhead
    exact Option.some.inj hhead
  cases call with
  | newClass license request =>
      cases other with
      | newTest => exact absurd htop (top_newTest_ne_top_newClass _ _ _)
      | newClass license' request' =>
          obtain ⟨hcall⟩ | ⟨hkind⟩ := hstep
          · exact nomatch hcall
          · obtain ⟨hcall⟩ | ⟨hkind'⟩ := hbuilder
            · exact nomatch hcall
            · rw [below_file haccepted, below_file haccepted', ArtifactKind.dropLast_namesBelow] at hway
              exact absurd hway (ArtifactKind.not_prefix_of_classSet hkind hkind' _)
  | newTest className =>
      cases other with
      | newClass => exact absurd htop.symm (top_newTest_ne_top_newClass _ _ _)
      | newTest className' =>
          obtain ⟨hcall⟩ | ⟨hkind⟩ := hstep
          · obtain rfl := Call.newTest.inj hcall
            rw [below_directory haccepted] at hlength
            obtain ⟨hcall'⟩ | ⟨hkind'⟩ := hbuilder
            · obtain rfl := Call.newTest.inj hcall'
              rw [below_directory haccepted'] at hlength
              exact absurd hlength (by simp)
            · rw [below_file haccepted', ArtifactKind.namesBelow_of_testSet hkind'] at hlength
              exact absurd hlength (by simp)
          · rw [below_file haccepted, ArtifactKind.namesBelow_of_testSet hkind] at hway hlength
            obtain ⟨hcall'⟩ | ⟨hkind'⟩ := hbuilder
            · obtain rfl := Call.newTest.inj hcall'
              rw [below_directory haccepted'] at hway
              have hlower := (List.cons_prefix_cons.mp (List.cons_prefix_cons.mp hway).2).1
              rw [eq_of_lower_eq h hlower]
              exact ⟨className, _, _, rfl, rfl, rfl⟩
            · rw [below_file haccepted', ArtifactKind.namesBelow_of_testSet hkind'] at hlength
              exact absurd hlength (by simp)

/-! ### Calls at once -/

theorem keepApart_start (render : Renderer) (layout : Layout) {n : Nat} {calls : Fin n → Call}
    (hapart : ∀ i j, i ≠ j → (calls i).Apart (calls j)) :
    Session.KeepApart layout.root fun i => ((calls i).start render .synqClient layout).ahead := by
  intro i j done step steps hahead
  change ((calls i).start render .synqClient layout).ahead = _ at hahead
  have hcalls : calls i = calls j ∨ (calls i).Apart (calls j) := by
    by_cases hij : i = j
    · exact Or.inl (congrArg calls hij)
    · exact Or.inr (hapart i j hij)
  obtain ⟨content, hsteps⟩ := isStep_of_mem_start render layout (calls i)
  obtain ⟨content', hbuilders⟩ := isStep_of_mem_start render layout (calls j)
  obtain ⟨haccepted, hstep⟩ := hsteps step (hahead ▸ List.mem_append_right _ List.mem_cons_self)
  refine ⟨hstep.isBelow haccepted, fun builder hmem hway => ?_, fun builder hmem heq => ?_⟩
  · obtain ⟨haccepted', hbuilder⟩ := hbuilders builder hmem
    obtain ⟨className, path, text, hcall, rfl, rfl⟩ :=
      eq_directory_of_way hcalls haccepted haccepted' hstep hbuilder hway
    rw [hcall] at hahead
    exact directory_mem_of_ahead hahead
  · obtain ⟨haccepted', hbuilder⟩ := hbuilders builder hmem
    have hcall := eq_of_below_eq hcalls haccepted haccepted' hstep hbuilder heq
    change builder ∈ ((calls j).start render .synqClient layout).ahead at hmem
    rw [← hcall] at hmem
    exact eq_of_isStep haccepted hstep (hsteps builder hmem).2 heq

theorem onTrack_start (render : Renderer) (layout : Layout) {n : Nat} (calls : Fin n → Call) (tree : FileTree) :
    Session.OnTrack layout.root tree (fun i => (calls i).start render .synqClient layout) []
      (Session.start render .synqClient layout calls tree) := by
  refine ⟨.nil _ _, fun _ h => absurd h List.not_mem_nil, fun i => ?_⟩
  change Stage.OnTrack _ _ _ _ ((calls i).start render .synqClient layout) ((calls i).start render .synqClient layout)
  rw [start]
  split
  · exact .refused _
  · have hreached : Step.Reached layout.root tree [] [] tree := ⟨⟨[], .nil tree⟩, .nil _ _, List.Subset.refl _⟩
    exact .ready hreached _

/-- Calls for classes of which no two have small forms that agree or differ by `private` at the end, and calls for
tests of which two have one small form only if they have one name, may be made at once in a tree without links.
However their actions follow on each other, every call that is over gave what it gives alone, and after five turns
it is over; when all are over, the tree is the one that the calls leave one after the other, in any order. In
particular all calls for a test succeed that would succeed alone. -/
theorem interleaved_eq_alone {n : Nat} (render : Renderer) (layout : Layout) (calls : Fin n → Call)
    (hapart : ∀ i j, i ≠ j → (calls i).Apart (calls j)) (tree : FileTree) (hlinks : tree.LinkFree)
    (schedule : List (Fin n)) :
    let session := (Session.start render .synqClient layout calls tree).play schedule
    (∀ i result, (session.runs i).result? = some result →
      result = ((calls i).run render .synqClient layout tree).result) ∧
    (∀ i, 5 ≤ schedule.count i → (session.runs i).result? ≠ none) ∧
    ((∀ i, (session.runs i).result? ≠ none) → ∀ order : List (Fin n), order.Nodup → (∀ i, i ∈ order) →
      session.tree.Alike (inTurn render .synqClient layout calls order tree)) ∧
    (∀ className written, (generateTest render .synqClient layout className tree).result = .ok written →
      ∀ i, calls i = .newTest className → 5 ≤ schedule.count i →
        (session.runs i).result? = some (.ok written)) := by
  intro session
  have hkeep := keepApart_start render layout hapart
  have hstart := onTrack_start render layout calls tree
  obtain ⟨deeds, htrack⟩ := hstart.play hlinks hkeep schedule
  have hover : ∀ (schedule : List (Fin n)) (i : Fin n), 5 ≤ schedule.count i →
      (((Session.start render .synqClient layout calls tree).play schedule).runs i).result? ≠ none := by
    intro schedule i hcount
    have hpending := Session.pending_play (Session.start render .synqClient layout calls tree) schedule i
    have hfirst : ((Session.start render .synqClient layout calls tree).runs i).pending ≤ 5 := pending_start ..
    rw [(Stage.result?_of_pending (by omega) tree).1]
    exact Option.some_ne_none _
  have halone : ∀ i result, (session.runs i).result? = some result →
      result = ((calls i).run render .synqClient layout tree).result := by
    intro i result hresult
    rw [((htrack.runs i).result_eq hresult).1, finish_start]
  refine ⟨halone, hover schedule, fun hall order hnodup hmem => ?_,
    fun className written hwritten i hcall hcount => ?_⟩
  · -- Calls one after the other are one way of taking turns.
    obtain ⟨deeds', htrack'⟩ := hstart.play hlinks hkeep (order.flatMap (List.replicate 5))
    have hcount : ∀ i, 5 ≤ (order.flatMap (List.replicate 5)).count i := by
      intro i
      obtain ⟨before, after, rfl⟩ := List.append_of_mem (hmem i)
      simp
      omega
    have halike := htrack.alike htrack' hall fun i => hover _ i (hcount i)
    rwa [Session.play_inTurn render .synqClient layout calls hnodup _ fun _ _ => rfl] at halike
  · obtain ⟨result, hresult⟩ := Option.ne_none_iff_exists'.mp (hover schedule i hcount)
    have hrun := halone i result hresult
    rw [hcall, run, hwritten] at hrun
    rw [hresult, hrun]

/-- Two calls for the test of `Job` that take turns, and one for the class `JobQueue`, for which the directories are
missing: both tests are written, and the files are those that one call writes. -/
theorem interleaved_eq_alone_job :
    let render : Renderer := fun template _ => .ok template
    let layout : Layout := ⟨"/r"⟩
    let calls : Fin 3 → Call := fun i => if i = 0 then .newClass ⟨2024, []⟩ ⟨"JobQueue", none⟩ else .newTest "Job"
    let tree : FileTree := ⟨[(["r"], .directory), (["r", "tests"], .directory)], []⟩
    let alone := generateTest render .synqClient layout "Job" tree
    let session := (Session.start render .synqClient layout calls tree).play [1, 2, 0, 2, 1, 2, 1, 1, 2, 2, 1]
    let written : List Text :=
      ["/r/tests/job/job.pro", "/r/tests/job/CMakeLists.txt", "/r/tests/job/tst_job.cpp"]
    alone.result = .ok written ∧
    (session.runs 1).result? = some (.ok written) ∧ (session.runs 2).result? = some (.ok written) := by
  intro render layout calls tree alone session written
  have hwritten : alone.result = .ok written := by rfl
  have hapart : ∀ i j, i ≠ j → (calls i).Apart (calls j) := by
    intro i j hij
    by_cases hi : i = 0
    · by_cases hj : j = 0
      · exact absurd (hi.trans hj.symm) hij
      · simp only [calls, hi, hj, if_true, if_false, Apart]
    · by_cases hj : j = 0
      · simp only [calls, hi, hj, if_true, if_false, Apart]
      · simp only [calls, hi, hj, if_false, Apart, implies_true]
  have hlinks : tree.LinkFree := FileTree.linkFree_of_entries (by simp [tree])
  have hall := interleaved_eq_alone render layout calls hapart tree hlinks [1, 2, 0, 2, 1, 2, 1, 1, 2, 2, 1]
  exact ⟨hwritten, hall.2.2.2 "Job" _ hwritten 1 rfl (by decide), hall.2.2.2 "Job" _ hwritten 2 rfl (by decide)⟩

end Call

end Scaffold
