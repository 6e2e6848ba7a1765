import Mathlib.Data.List.Nodup
import Scaffold.Proofs.Preparation

/-! The files of a call are different files. Directories may coincide, be reached through links or lie outside the
repository; the names of the files of one class, or of one test, differ in their stems or in their extensions,
by more than the case of letters. A file is written at the last name of its path, unless a link stands there,
so that no file of a call takes the place of another. -/

namespace Scaffold.Call

variable {render : Renderer} {profile : Profile} {layout : Layout} {call : Call} {tree middle later : FileTree}
  {artifacts : List Artifact} {kind kind' : ArtifactKind}

theorem kind_eq_of_sameLetters (haccepted : call.IsAccepted) (hkind : kind ∈ call.kinds) (hkind' : kind' ∈ call.kinds)
    (h : SameLetters (kind.fileName call.name) (kind'.fileName call.name)) : kind = kind' := by
  apply ArtifactKind.eq_of_sameLetters_fileName (isParsed_name haccepted) _ h
  cases call with
  | newClass license request => exact Or.inl ⟨hkind, hkind'⟩
  | newTest className => exact Or.inr ⟨hkind, hkind'⟩

theorem fileNames_nodup (haccepted : call.IsAccepted) :
    (call.kinds.map fun kind => (kind.fileName call.name).map Char.toLower).Nodup := by
  have hkinds : call.kinds.Nodup := by
    cases call with
    | newClass license request => exact (by decide : ArtifactKind.classSet.Nodup)
    | newTest className => exact (by decide : ArtifactKind.testSet.Nodup)
  apply hkinds.map_on
  intro kind hkind kind' hkind' heq
  exact kind_eq_of_sameLetters haccepted hkind hkind' heq

/-- Files of a call that are written at one place are one file. -/
theorem kind_eq_of_writes (haccepted : call.IsAccepted) (hclosed : tree.IsClosed)
    (hlinks : ∀ kind ∈ call.kinds, ¬tree.isLink (layout.target (kind.path profile call.name)))
    (hkind : kind ∈ call.kinds) (hkind' : kind' ∈ call.kinds) {place : Location}
    (h : tree.Writes (layout.target (kind.path profile call.name)) place)
    (h' : tree.Writes (layout.target (kind'.path profile call.name)) place) : kind = kind' := by
  have hname := isParsed_name haccepted
  have hlast : ∀ kind ∈ call.kinds, tree.Writes (layout.target (kind.path profile call.name)) place →
      ∃ parent, place = parent ++ [kind.fileName call.name] := by
    intro kind hkind hwrites
    have hlink := hlinks kind hkind
    rw [kind.target_path layout profile hname] at hwrites hlink
    obtain ⟨inner, hplace, -⟩ :=
      FileTree.exists_inner_of_writes hclosed (kind.isFileName_fileName hname) hlink hwrites
    exact ⟨inner.place, hplace⟩
  obtain ⟨parent, rfl⟩ := hlast kind hkind h
  obtain ⟨parent', hplace⟩ := hlast kind' hkind' h'
  have hfile : kind.fileName call.name = kind'.fileName call.name :=
    List.singleton_inj.mp (List.append_inj' hplace rfl).2
  exact kind_eq_of_sameLetters haccepted hkind hkind' (congrArg _ hfile)

/-- The targets of the files of an accepted call end in names that differ by more than the case of letters, whatever
directories the profile tells. And if no link stands at a target, be the directories reached through links or
not, a call that succeeds returns these targets and leaves at each of them the content that was planned for it. -/
theorem no_file_lost (render : Renderer) (profile : Profile) (layout : Layout) (call : Call)
    (haccepted : call.IsAccepted) :
    (∀ kind ∈ call.kinds,
      Path.fileName? (layout.target (kind.path profile call.name)) = some (kind.fileName call.name)) ∧
    (call.kinds.map fun kind => (kind.fileName call.name).map Char.toLower).Nodup ∧
    ∀ tree : FileTree, tree.IsClosed →
      (∀ kind ∈ call.kinds, ¬tree.isLink (layout.target (kind.path profile call.name))) →
      ∀ paths, (call.run render profile layout tree).result = .ok paths →
        ∃ content : ArtifactKind → Text,
          (call.plan render profile).result =
            .ok (call.kinds.map fun kind => ⟨kind, kind.path profile call.name, content kind⟩) ∧
          paths = call.kinds.map (fun kind => layout.target (kind.path profile call.name)) ∧
          ∀ kind ∈ call.kinds, (call.run render profile layout tree).tree.contentAt?
            (layout.target (kind.path profile call.name)) = some (content kind) := by
  have hname := isParsed_name haccepted
  refine ⟨fun kind _ => ?_, fileNames_nodup haccepted, fun tree hclosed hlinks paths hresult => ?_⟩
  · rw [kind.target_path layout profile hname]
    exact Path.fileName?_join_name (kind.isFileName_fileName hname) _
  · obtain ⟨artifacts, middle, hplan, hprepares, hwritten, rfl⟩ := run_eq_ok_iff.mp ⟨hresult, rfl⟩
    obtain ⟨-, content, rfl⟩ := planned_of_plan hplan
    have hclosed' := hprepares.isClosed haccepted hclosed
    have hlinks' : ∀ kind ∈ call.kinds, ¬middle.isLink (layout.target (kind.path profile call.name)) :=
      fun kind hkind htrue => hlinks kind hkind ((hprepares.targets haccepted hclosed hkind).1 htrue)
    refine ⟨content, hplan, by simp [Function.comp_def], fun kind hkind => ?_⟩
    -- Two files at one place would have one name.
    refine Layout.contentAt?_of_writeInOrder hwritten (fun artifact hartifact other hother place hwrites hwrites' => ?_)
      (List.mem_map_of_mem hkind)
    obtain ⟨kind, hkind, rfl⟩ := List.mem_map.mp hartifact
    obtain ⟨kind', hkind', rfl⟩ := List.mem_map.mp hother
    rw [kind_eq_of_writes haccepted hclosed' hlinks' hkind hkind' hwrites hwrites']

/-- A profile puts headers and sources into one directory, the headers through a link. -/
theorem no_file_lost_one_directory :
    let render : Renderer := fun template _ => .ok template
    let profile : Profile := { Profile.synqClient with nameSpace := "/r/all", libraryDir := "/" }
    let layout : Layout := ⟨"/r"⟩
    let tree : FileTree := ⟨[(["r"], .directory), (["src"], .directory), (["r", "all"], .link "/src")], []⟩
    let call : Call := .newClass ⟨2024, []⟩ ⟨"JobQueue", none⟩
    let run := call.run render profile layout tree
    let written : List Text :=
      ["/r/all/jobqueue.h", "/r/all/JobQueue", "/src/jobqueue.cpp", "/src/jobqueueprivate.h",
        "/src/jobqueueprivate.cpp"]
    call.IsAccepted ∧ run.result = .ok written ∧ ∃ content : ArtifactKind → Text,
      (call.plan render profile).result =
        .ok (call.kinds.map fun kind => ⟨kind, kind.path profile call.name, content kind⟩) ∧
      ∀ kind ∈ call.kinds,
        run.tree.contentAt? (layout.target (kind.path profile call.name)) = some (content kind) := by
  intro render profile layout tree call run written
  have haccepted : call.IsAccepted := ⟨isIdentifier_iff.mp (by decide +kernel), nofun⟩
  have hclosed : tree.IsClosed := FileTree.isClosed_of_entries rfl (by simp [tree, FileTree.at?])
  have hlinks : ∀ kind ∈ call.kinds, ¬tree.isLink (layout.target (kind.path profile call.name)) := by
    decide +kernel
  have hresult : run.result = .ok written := by rfl
  obtain ⟨-, -, hall⟩ := no_file_lost render profile layout call haccepted
  obtain ⟨content, hplan, -, hread⟩ := hall tree hclosed hlinks written hresult
  exact ⟨haccepted, hresult, content, hplan, hread⟩

end Scaffold.Call
