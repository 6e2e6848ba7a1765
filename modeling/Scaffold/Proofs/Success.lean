import Scaffold.Proofs.Artifact.Below
import Scaffold.Proofs.Plan
import Scaffold.Proofs.Preparation

/-! When a call succeeds. A class needs its two directories, a test its own or the one in which it can be made, and
nothing may be in the way of the files. No file can be in the way of another, so that all this can be asked of
the tree in which the call begins. The directory that is made for a test is spelled a second time, apart from
the paths of its files; it is the parent of each of them all the same, so that no file of a test is refused for
want of a directory. -/

namespace Scaffold

theorem Path.join_ne_nil {path : Text} (h : path ≠ []) (base : Text) : Path.join base path ≠ [] := by
  unfold Path.join
  split
  · exact h
  · split
    · exact List.append_ne_nil_of_right_ne_nil _ h
    · exact List.append_ne_nil_of_right_ne_nil _ (List.cons_ne_nil _ _)

namespace Call

variable {render : Renderer} {profile : Profile} {layout : Layout} {call : Call} {tree middle later : FileTree}
  {artifacts : List Artifact} {kind : ArtifactKind} {className : Text} {content : ArtifactKind → Text} {error : Error}

/-- The paths of the files of a call, and their names, are no longer than the system allows. -/
def Fits (profile : Profile) (layout : Layout) (call : Call) : Prop :=
  ∀ kind ∈ call.kinds, FileTree.Fits (layout.target (kind.directory profile call.name)) (kind.fileName call.name)

/-- No target of a call is itself a link. -/
def IsUnlinked (profile : Profile) (layout : Layout) (call : Call) (tree : FileTree) : Prop :=
  ∀ kind ∈ call.kinds, ¬tree.isLink (layout.target (kind.path profile call.name))

/-- Nothing is in the way of the files of a call: none of their targets is a directory, or a program that is running. -/
def IsFree (profile : Profile) (layout : Layout) (call : Call) (tree : FileTree) : Prop :=
  ∀ kind ∈ call.kinds, ¬tree.isDirectory (layout.target (kind.path profile call.name)) ∧
    ¬tree.isRunning (layout.target (kind.path profile call.name))

/-- The directories of the files of a call are there. -/
def IsHoused (profile : Profile) (layout : Layout) (call : Call) (tree : FileTree) : Prop :=
  ∀ kind ∈ call.kinds, tree.isDirectory (layout.target (kind.directory profile call.name))

/-- The files of a call, with any contents. -/
def files (profile : Profile) (call : Call) (content : ArtifactKind → Text) : List Artifact :=
  call.kinds.map fun kind => ⟨kind, kind.path profile call.name, content kind⟩

/-! ### Files -/

/-- Files of a call can be written in order if their directories are there and nothing is in their way, and only so. -/
theorem writeInOrder_files_iff (haccepted : call.IsAccepted) (hclosed : tree.IsClosed)
    (hlinks : call.IsUnlinked profile layout tree) (hfits : call.Fits profile layout)
    (hne : ∀ kind ∈ call.kinds, kind.directory profile call.name ≠ []) :
    (∃ later, layout.writeInOrder (call.files profile content) tree = .ok later) ↔
      call.IsHoused profile layout tree ∧ call.IsFree profile layout tree := by
  have hname := isParsed_name haccepted
  have hkind : ∀ kind ∈ call.kinds,
      ((∃ next, tree.writeFile (layout.target (kind.path profile call.name)) (content kind) = .ok next) ↔
        tree.isDirectory (layout.target (kind.directory profile call.name)) ∧
          ¬tree.isDirectory (layout.target (kind.path profile call.name)) ∧
          ¬tree.isRunning (layout.target (kind.path profile call.name))) := by
    intro kind hkind
    have hlink := hlinks kind hkind
    rw [kind.target_path layout profile hname] at hlink ⊢
    exact FileTree.writeFile_join_ok_iff hclosed (kind.isFileName_fileName hname) (kind.nul_notMem_fileName hname)
      (Path.join_ne_nil (hne kind hkind) _) (hfits kind hkind) hlink
  rw [Layout.writeInOrder_ok_iff, files, List.forall_mem_map]
  constructor
  · intro hall
    exact ⟨fun kind hmem => ((hkind kind hmem).mp (hall kind hmem)).1,
      fun kind hmem => ((hkind kind hmem).mp (hall kind hmem)).2⟩
  · rintro ⟨hhoused, hfree⟩ kind hmem
    exact (hkind kind hmem).mpr ⟨hhoused kind hmem, hfree kind hmem⟩

/-- A file of a call whose directory is there is refused only because its path is too long or something is in its
way. -/
theorem error_of_writeAll_files (haccepted : call.IsAccepted) (hhoused : call.IsHoused profile layout tree)
    (hlinks : call.IsUnlinked profile layout tree)
    (h : (layout.writeAll (call.files profile content) tree).result = .error error) :
    ∃ kind ∈ call.kinds, ∃ fault, error = .write (layout.target (kind.path profile call.name)) fault ∧
      tree.Refuses (layout.target (kind.directory profile call.name)) (kind.fileName call.name) fault := by
  have hname := isParsed_name haccepted
  obtain ⟨done, rest, later, hfiles, hdone, ⟨-, hall⟩ | ⟨failing, after, fault, rfl, hfault, hall⟩⟩ :=
    layout.writeAll_cases (call.files profile content) tree
  · rw [hall] at h
    cases h
  · rw [hall] at h
    obtain rfl := Except.error.inj h
    have hmem : failing ∈ call.files profile content := hfiles ▸ List.mem_append_right _ List.mem_cons_self
    obtain ⟨kind, hkind, rfl⟩ := List.mem_map.mp hmem
    have hrefills := Layout.refills_of_writeInOrder hdone
    have hlink : ¬later.isLink (layout.target (kind.path profile call.name)) :=
      fun htrue => hlinks kind hkind (hrefills.isLink_iff.mp htrue)
    refine ⟨kind, hkind, fault, rfl, ?_⟩
    rw [kind.target_path layout profile hname] at hfault hlink
    have hends := FileTree.writeEnds (kind.isFileName_fileName hname) (kind.nul_notMem_fileName hname)
      (hrefills.grows.isDirectory (hhoused kind hkind)) hlink (content kind)
    rw [hfault] at hends
    cases hends with
    | refused hrefuses => exact hrefuses.imp hrefills.isDirectory_iff.mp hrefills.isRunning_iff.mp

/-! ### The tree that was prepared -/

theorem Prepares.isUnlinked (haccepted : call.IsAccepted) (hclosed : tree.IsClosed)
    (h : call.Prepares profile layout tree middle) (hlinks : call.IsUnlinked profile layout tree) :
    call.IsUnlinked profile layout middle :=
  fun kind hkind htrue => hlinks kind hkind ((h.targets haccepted hclosed hkind).1 htrue)

theorem Prepares.isFree_iff (haccepted : call.IsAccepted) (hclosed : tree.IsClosed)
    (h : call.Prepares profile layout tree middle) :
    call.IsFree profile layout middle ↔ call.IsFree profile layout tree := by
  constructor
  · intro hfree kind hkind
    exact ⟨fun htrue => (hfree kind hkind).1 (h.grows.isDirectory htrue),
      fun htrue => (hfree kind hkind).2 (h.grows.isRunning htrue)⟩
  · intro hfree kind hkind
    obtain ⟨-, hdirectory, hrunning⟩ := h.targets haccepted hclosed hkind
    exact ⟨fun htrue => (hfree kind hkind).1 (hdirectory htrue), fun htrue => (hfree kind hkind).2 (hrunning htrue)⟩

/-- The directory of a test is there when its files are written. -/
theorem Prepares.isHoused (h : (Call.newTest className).Prepares profile layout tree middle) :
    (Call.newTest className).IsHoused profile layout middle := by
  intro kind hkind
  rw [ArtifactKind.directory_of_testSet hkind]
  obtain ⟨event, hdoes⟩ := h
  generalize hstep : layout.directoryStep (profile.testDir (Text.lower className)) = step at hdoes
  cases hdoes with
  | found hfound =>
      obtain rfl := Step.directory.inj hstep
      exact hfound
  | made hmakes hfree =>
      obtain rfl := Step.directory.inj hstep
      have hmade := FileTree.at?_set_self tree hmakes.ne_nil .directory
      have hmakes' := hmakes.mono (FileTree.Makes.grows hfree)
      exact FileTree.isDirectory_iff.mpr ⟨_, hmakes'.locate? hmade, hmade⟩
  | written => cases hstep

/-- A test can be given its directory if it has one, or if nothing is there and it can be made. -/
theorem exists_prepares_newTest_iff (hname : IsPlainName className) (hclosed : tree.IsClosed)
    (hlink : ¬tree.isLink (layout.target (profile.testDir (Text.lower className))))
    (hfits : (Call.newTest className).Fits profile layout) (hne : profile.testsDir ≠ []) :
    (∃ middle, (Call.newTest className).Prepares profile layout tree middle) ↔
      tree.isDirectory (layout.target (profile.testDir (Text.lower className))) ∨
        tree.locate? (layout.target (profile.testDir (Text.lower className))) = none ∧
          tree.isDirectory (layout.target profile.testsDir) := by
  have hparsed : (ClassName.derive className).IsParsed :=
    ClassName.isParsed_of_parse (ClassName.parse_of_isPlainName hname)
  have htarget : layout.target (profile.testDir (Text.lower className)) =
      Path.join (layout.target profile.testsDir) (Text.lower className) :=
    Profile.target_testDir layout profile hparsed
  have hshort : FileTree.Fits (layout.target profile.testsDir) (Text.lower className) := by
    obtain ⟨hpath, hfile⟩ := hfits .testSource (List.mem_of_elem_eq_true rfl)
    have hname : Text.byteLength (ArtifactKind.testSource.fileName (.derive className)) =
        Text.byteLength "tst_" + Text.byteLength (Text.lower className) + Text.byteLength ".cpp" := by
      rw [← Text.byteLength_append, ← Text.byteLength_append]
      rfl
    refine ⟨?_, ?_⟩
    · rw [← htarget]
      exact Nat.le_trans (FileTree.byteLength_le_join (ArtifactKind.testSource.isFileName_fileName hparsed) _) hpath
    · change Text.byteLength (ArtifactKind.testSource.fileName (.derive className)) ≤ _ at hfile
      omega
  have hcreate : (∃ later, tree.createDirectory (layout.target (profile.testDir (Text.lower className))) = .ok later) ↔
      tree.isDirectory (layout.target profile.testsDir) ∧
        tree.locate? (layout.target (profile.testDir (Text.lower className))) = none := by
    rw [htarget] at hlink ⊢
    exact FileTree.createDirectory_join_ok_iff hclosed hparsed.isFileName_lower hparsed.nul_notMem_lower
      (Path.join_ne_nil hne layout.root) hshort hlink
  calc (∃ middle, (Call.newTest className).Prepares profile layout tree middle)
      ↔ ∃ event middle, Step.Does tree (layout.directoryStep (profile.testDir (Text.lower className))) event middle :=
        exists_comm
    _ ↔ _ := Step.exists_does_directory_iff
    _ ↔ _ := by rw [hcreate, and_comm]

/-! ### Success -/

/-- A call that is planned succeeds exactly if its directories are there, a test having been given its own, and
nothing is in the way of its files. -/
theorem succeeds_iff_of_plan (hclosed : tree.IsClosed) (hlinks : call.IsUnlinked profile layout tree)
    (hfits : call.Fits profile layout) (hne : ∀ kind ∈ call.kinds, kind.directory profile call.name ≠ [])
    (hplan : (call.plan render profile).result = .ok artifacts) :
    (∃ paths, (call.run render profile layout tree).result = .ok paths) ↔
      (∃ middle, call.Prepares profile layout tree middle ∧ call.IsHoused profile layout middle) ∧
        call.IsFree profile layout tree := by
  obtain ⟨haccepted, content, rfl⟩ := planned_of_plan hplan
  have hfiles : ∀ middle, call.Prepares profile layout tree middle →
      ((∃ later, layout.writeInOrder (call.files profile content) middle = .ok later) ↔
        call.IsHoused profile layout middle ∧ call.IsFree profile layout tree) := by
    intro middle h
    rw [writeInOrder_files_iff haccepted (h.isClosed haccepted hclosed) (h.isUnlinked haccepted hclosed hlinks) hfits
      hne, h.isFree_iff haccepted hclosed]
  constructor
  · rintro ⟨paths, hresult⟩
    obtain ⟨artifacts, middle, hplan', hprepares, hwritten, -⟩ := run_eq_ok_iff.mp ⟨hresult, rfl⟩
    obtain rfl := Except.ok.inj (hplan.symm.trans hplan')
    obtain ⟨hhoused, hfree⟩ := (hfiles middle hprepares).mp ⟨_, hwritten⟩
    exact ⟨⟨middle, hprepares, hhoused⟩, hfree⟩
  · rintro ⟨⟨middle, hprepares, hhoused⟩, hfree⟩
    obtain ⟨later, hwritten⟩ := (hfiles middle hprepares).mpr ⟨hhoused, hfree⟩
    exact ⟨_, (run_eq_ok_iff.mpr ⟨_, middle, hplan, hprepares, hwritten, rfl⟩).1⟩

theorem isHoused_newClass_iff (license : License) (request : ClassRequest) :
    (Call.newClass license request).IsHoused profile layout tree ↔
      tree.isDirectory (layout.target profile.includeDir) ∧ tree.isDirectory (layout.target profile.sourceDir) := by
  constructor
  · intro h
    exact ⟨h .publicHeader (List.mem_of_elem_eq_true rfl), h .publicSource (List.mem_of_elem_eq_true rfl)⟩
  · rintro ⟨hinclude, hsource⟩ kind hkind
    have hclass : kind ∈ ArtifactKind.classSet := hkind
    cases kind with
    | publicHeader | includeShim => exact hinclude
    | publicSource | privateHeader | privateSource => exact hsource
    | testProject | testRegistration | testSource => exact absurd hclass (by decide)

/-- If the directory of a test could be made sure of, its files are refused only because a path is too long or something
is in the way. -/
theorem error_of_newTest (hclosed : tree.IsClosed)
    (hplan : ((Call.newTest className).plan render profile).result = .ok artifacts)
    (hlinks : (Call.newTest className).IsUnlinked profile layout tree)
    (h : ((Call.newTest className).run render profile layout tree).result = .error error) :
    (layout.ensureDirectory (profile.testDir (Text.lower className)) tree).result = .error error ∨
      ∃ kind ∈ ArtifactKind.testSet, ∃ fault,
        error = .write (layout.target (kind.path profile (.derive className))) fault ∧
        tree.Refuses (layout.target (profile.testDir (Text.lower className))) (kind.fileName (.derive className))
          fault := by
  obtain ⟨haccepted, content, rfl⟩ := planned_of_plan hplan
  have hresult : (Step.performAll (layout.testSteps profile className ((Call.newTest className).files profile content))
      tree).result = .error error := by
    rw [run_eq, Told.change, hplan] at h
    exact h
  rcases performAll_testSteps_cases profile layout className ((Call.newTest className).files profile content) tree with
    ⟨error', hdirectory, -, hall⟩ | ⟨event, middle, hprepares, hall⟩
  · rw [hall] at hresult
    obtain rfl := Except.error.inj hresult
    exact Or.inl hdirectory
  · rw [hall] at hresult
    right
    have hprepared := (hprepares middle).mpr rfl
    obtain ⟨kind, hkind, fault, rfl, hrefuses⟩ := error_of_writeAll_files haccepted hprepared.isHoused
      (hprepared.isUnlinked haccepted hclosed hlinks) hresult
    refine ⟨kind, hkind, fault, rfl, ?_⟩
    obtain ⟨-, hdirectory, hrunning⟩ := hprepared.targets haccepted hclosed hkind
    rw [kind.target_path layout profile (isParsed_name haccepted)] at hdirectory hrunning
    have hrefused := hrefuses.imp hdirectory hrunning
    rw [ArtifactKind.directory_of_testSet hkind] at hrefused
    exact hrefused

/-! ### SynqClient -/

theorem directory_ne_nil {name : ClassName} (hname : name.IsParsed) (kind : ArtifactKind) :
    kind.directory .synqClient name ≠ [] := by
  cases kind with
  | publicHeader | includeShim => exact Profile.spells_includeDir.path_ne_nil
  | publicSource | privateHeader | privateSource => exact Profile.spells_sourceDir.path_ne_nil
  | testProject | testRegistration | testSource =>
      exact (Profile.spells_testDir hname.lower_isWord hname.lower_ne_nil).path_ne_nil

theorem testDir_synqClient {name : ClassName} (hname : name.IsParsed) :
    Profile.synqClient.testDir name.lower = "tests/" ++ name.lower := by
  have htests : ("tests/" : Text) = Profile.synqClient.testsDir ++ ['/'] := by decide +kernel
  have hopen : ¬(Profile.synqClient.testsDir = [] || Profile.synqClient.testsDir.getLast? == some '/') = true := by
    decide +kernel
  rw [htests, List.append_assoc, Profile.testDir, Path.join, hname.isFileName_lower.isAbsolute_self,
    if_neg Bool.false_ne_true, if_neg hopen]
  rfl

theorem newClass_succeeds_iff (hclosed : tree.IsClosed) (hlinks : tree.LinkFree) {license : License}
    {request : ClassRequest} (haccepted : request.IsAcceptable)
    (hfits : (Call.newClass license request).Fits .synqClient layout) :
    (∃ paths, (generateClass Template.renderer .synqClient license layout request tree).result = .ok paths) ↔
      tree.isDirectory (layout.target "libsynqclient/inc/SynqClient") ∧
      tree.isDirectory (layout.target "libsynqclient/src") ∧
      (Call.newClass license request).IsFree .synqClient layout tree := by
  have hinclude : Profile.synqClient.includeDir = "libsynqclient/inc/SynqClient" := by decide +kernel
  have hsource : Profile.synqClient.sourceDir = "libsynqclient/src" := by decide +kernel
  have hplan : ((Call.newClass license request).plan Template.renderer .synqClient).result = .ok _ :=
    planClass_result_eq_ok_iff.mpr ⟨_, _, haccepted.check, rfl⟩
  have hname : (Call.newClass license request).name.IsParsed := isParsed_name haccepted
  have hhere : ∀ middle, (Call.newClass license request).Prepares .synqClient layout tree middle ↔ middle = tree :=
    fun middle => Iff.rfl
  refine (succeeds_iff_of_plan hclosed (fun kind _ => FileTree.isLink_of_linkFree hlinks _) hfits
    (fun kind _ => directory_ne_nil hname kind) hplan).trans ?_
  rw [← hinclude, ← hsource, ← and_assoc, ← isHoused_newClass_iff license request]
  simp only [hhere, exists_eq_left]

theorem newTest_succeeds_iff (hclosed : tree.IsClosed) (hlinks : tree.LinkFree) (hname : IsPlainName className)
    (hfits : (Call.newTest className).Fits .synqClient layout) :
    (∃ paths, (generateTest Template.renderer .synqClient layout className tree).result = .ok paths) ↔
      (tree.isDirectory (layout.target ("tests/" ++ Text.lower className)) ∨
        tree.locate? (layout.target ("tests/" ++ Text.lower className)) = none ∧
          tree.isDirectory (layout.target "tests")) ∧
      (Call.newTest className).IsFree .synqClient layout tree := by
  have hplan : ((Call.newTest className).plan Template.renderer .synqClient).result = .ok _ :=
    planTest_result_eq_ok_iff.mpr ⟨_, ClassName.parse_of_isPlainName hname, rfl⟩
  have hparsed : (Call.newTest className).name.IsParsed := isParsed_name hname
  have hdirectory : Profile.synqClient.testDir (Text.lower className) = "tests/" ++ Text.lower className :=
    testDir_synqClient hparsed
  refine (succeeds_iff_of_plan hclosed (fun kind _ => FileTree.isLink_of_linkFree hlinks _) hfits
    (fun kind _ => directory_ne_nil hparsed kind) hplan).trans ?_
  have hprepares := exists_prepares_newTest_iff hname hclosed
    (FileTree.isLink_of_linkFree hlinks (layout.target (Profile.synqClient.testDir (Text.lower className)))) hfits
    (by decide)
  have htests : Profile.synqClient.testsDir = "tests" := rfl
  rw [hdirectory, htests] at hprepares
  rw [← hprepares]
  -- The directory of a test is there as soon as the test is prepared.
  have hhoused : ∀ middle, (Call.newTest className).Prepares .synqClient layout tree middle →
      (Call.newTest className).IsHoused .synqClient layout middle := fun middle h => h.isHoused
  simp only [and_iff_left_of_imp (hhoused _)]

/-- The directory that is made sure of for a test is the parent of the files that were planned for it. -/
theorem parents_of_plan (layout : Layout) (hplan : (planTest render profile className).result = .ok artifacts)
    {artifact : Artifact} (hartifact : artifact ∈ artifacts) :
    Path.parent? artifact.path = some (profile.testDir (ClassName.derive className).lower) ∧
      Path.parent? (layout.target artifact.path) =
        some (layout.target (profile.testDir (ClassName.derive className).lower)) := by
  have hcall : ((Call.newTest className).plan render profile).result = .ok artifacts := hplan
  obtain ⟨haccepted, content, rfl⟩ := planned_of_plan hcall
  have hname := isParsed_name haccepted
  obtain ⟨kind, hkind, rfl⟩ := List.mem_map.mp hartifact
  exact ⟨profile.parent?_path hname hkind, profile.parent?_target layout hname hkind⟩

/-- When the generator of SynqClient succeeds, in a tree without links and with paths that are not too long: a class if
its two directories are there, a test if its own is there or could be made, and both only if no target is a
directory (or the file of a program that is running). With any profile, in a tree with links, the directory that
is made sure of for a test is the parent of the planned files, and where it could be made sure of no file is
refused for want of a directory: its path is too long, or something is in the way at a target that is no link. -/
theorem succeeds_iff (layout : Layout) (tree : FileTree) (hclosed : tree.IsClosed) :
    (tree.LinkFree →
      (∀ (license : License) (request : ClassRequest), request.IsAcceptable →
        (Call.newClass license request).Fits .synqClient layout →
        ((∃ paths, (generateClass Template.renderer .synqClient license layout request tree).result = .ok paths) ↔
          tree.isDirectory (layout.target "libsynqclient/inc/SynqClient") ∧
          tree.isDirectory (layout.target "libsynqclient/src") ∧
          (Call.newClass license request).IsFree .synqClient layout tree)) ∧
      ∀ className : Text, IsPlainName className → (Call.newTest className).Fits .synqClient layout →
        ((∃ paths, (generateTest Template.renderer .synqClient layout className tree).result = .ok paths) ↔
          (tree.isDirectory (layout.target ("tests/" ++ Text.lower className)) ∨
            tree.locate? (layout.target ("tests/" ++ Text.lower className)) = none ∧
              tree.isDirectory (layout.target "tests")) ∧
          (Call.newTest className).IsFree .synqClient layout tree)) ∧
    ∀ (render : Renderer) (profile : Profile) (className : Text) (artifacts : List Artifact),
      (planTest render profile className).result = .ok artifacts →
      let directory := profile.testDir (ClassName.derive className).lower
      (∀ artifact ∈ artifacts, Path.parent? artifact.path = some directory ∧
        Path.parent? (layout.target artifact.path) = some (layout.target directory)) ∧
      ((∀ artifact ∈ artifacts, ¬tree.isLink (layout.target artifact.path)) →
        ∀ error, (generateTest render profile layout className tree).result = .error error →
          (layout.ensureDirectory directory tree).result = .error error ∨
          ∃ artifact ∈ artifacts, ∃ fault, error = .write (layout.target artifact.path) fault ∧
            tree.Refuses (layout.target directory) (artifact.kind.fileName (.derive className)) fault) := by
  refine ⟨fun hlinks => ⟨fun license request haccepted hfits => newClass_succeeds_iff hclosed hlinks haccepted hfits,
    fun className hname hfits => newTest_succeeds_iff hclosed hlinks hname hfits⟩,
    fun render profile className artifacts hplan => ⟨fun artifact hartifact => parents_of_plan layout hplan hartifact,
      fun hlinks error herror => ?_⟩⟩
  have hcall : ((Call.newTest className).plan render profile).result = .ok artifacts := hplan
  obtain ⟨haccepted, content, rfl⟩ := planned_of_plan hcall
  have hunlinked : (Call.newTest className).IsUnlinked profile layout tree :=
    fun kind hkind => hlinks _ (List.mem_map_of_mem hkind)
  rcases error_of_newTest hclosed hplan hunlinked herror with
    hdirectory | ⟨kind, hkind, fault, rfl, hrefuses⟩
  · exact Or.inl hdirectory
  · exact Or.inr ⟨_, List.mem_map_of_mem hkind, fault, rfl, hrefuses⟩

/-- Without the directory of the public headers no class can be made, but its test can, whose directory is missing. -/
theorem succeeds_iff_jobQueue :
    let layout : Layout := ⟨"/r"⟩
    let tree : FileTree := ⟨[(["r"], .directory), (["r", "tests"], .directory), (["r", "libsynqclient"], .directory),
      (["r", "libsynqclient", "src"], .directory)], []⟩
    tree.IsClosed ∧ tree.LinkFree ∧
    ¬(∃ paths, (generateClass Template.renderer .synqClient ⟨2024, []⟩ layout ⟨"JobQueue", none⟩ tree).result =
      .ok paths) ∧
    ∃ paths, (generateTest Template.renderer .synqClient layout "JobQueue" tree).result = .ok paths := by
  intro layout tree
  have hclosed : tree.IsClosed := FileTree.isClosed_of_entries rfl (by simp [tree, FileTree.at?, List.lookup_cons])
  have hlinks : tree.LinkFree := FileTree.linkFree_of_entries (by simp [tree])
  have hname : IsPlainName "JobQueue" := isIdentifier_iff.mp (by decide +kernel)
  have hfits : ∀ kind : ArtifactKind, FileTree.Fits (layout.target (kind.directory .synqClient (.derive "JobQueue")))
      (kind.fileName (.derive "JobQueue")) := fun kind => by cases kind <;> exact ⟨by decide +kernel, by decide +kernel⟩
  obtain ⟨hall, -⟩ := succeeds_iff layout tree hclosed
  obtain ⟨hclass, htest⟩ := hall hlinks
  have hmissing : ¬tree.isDirectory (layout.target "libsynqclient/inc/SynqClient") := by decide +kernel
  have hthere : tree.locate? (layout.target ("tests/" ++ Text.lower "JobQueue")) = none ∧
      tree.isDirectory (layout.target "tests") := by decide +kernel
  have hfree : (Call.newTest "JobQueue").IsFree .synqClient layout tree := by
    intro kind _
    cases kind <;> decide +kernel
  refine ⟨hclosed, hlinks, fun h => hmissing ?_, ?_⟩
  · exact ((hclass ⟨2024, []⟩ ⟨"JobQueue", none⟩ ⟨hname, nofun⟩ fun kind _ => hfits kind).mp h).1
  · exact (htest "JobQueue" hname fun kind _ => hfits kind).mpr ⟨Or.inr hthere, hfree⟩

end Call

end Scaffold
