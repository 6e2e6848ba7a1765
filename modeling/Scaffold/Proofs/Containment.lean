import Scaffold.Proofs.Artifact.Target
import Scaffold.Proofs.History
import Scaffold.Proofs.Include
import Scaffold.Proofs.Path.Depth

/-! Generated files stay below the root. Their directories lead down by plain names if those of the profile do,
and the name of a file is one plain name more, whatever accepted name it is made from. Hence a run changes
nothing but what such paths lead to. -/

namespace Scaffold

open Scaffold.Path (components IsNames)

/-- A path of names starts with neither a slash nor a dot. -/
theorem Path.anchor_of_isNames {path : Text} (h : IsNames (components path)) : anchor path = [] := by
  rw [components_eq] at h
  unfold anchor at h ⊢
  rcases anchored_cases path with hnone | hslash | hdot
  · rw [hnone]
    rfl
  · rw [hslash] at h
    obtain ⟨text, heq⟩ := h .root List.mem_cons_self
    cases heq
  · rw [hdot] at h
    obtain ⟨text, heq⟩ := h .here List.mem_cons_self
    cases heq

/-- Conventions whose directories are relative paths of plain names, without dots and steps up. -/
structure Profile.LeadsDown (profile : Profile) : Prop where
  libraryDir : IsNames (components profile.libraryDir)
  nameSpace : IsNames (components profile.nameSpace)
  testsDir : IsNames (components profile.testsDir)

/-- The components that lead from the root to the directory of a file. -/
def ArtifactKind.way (profile : Profile) (name : ClassName) : ArtifactKind → List Path.Component
  | .publicHeader | .includeShim => components profile.libraryDir ++ .name "inc" :: components profile.nameSpace
  | .publicSource | .privateHeader | .privateSource => components profile.libraryDir ++ [.name "src"]
  | .testProject | .testRegistration | .testSource => components profile.testsDir ++ [.name name.lower]

namespace ArtifactKind

variable {profile : Profile} {name : ClassName}

theorem components_directory (hprofile : profile.LeadsDown) (hname : name.IsParsed) (kind : ArtifactKind) :
    components (kind.directory profile name) = kind.way profile name := by
  cases kind with
  | publicHeader | includeShim =>
      have hspace := Path.anchor_of_isNames hprofile.nameSpace
      refine (Path.components_join hspace _).trans ?_
      rw [profile.components_includeRoot, List.append_assoc]
      rfl
  | publicSource | privateHeader | privateSource => exact profile.components_sourceDir
  | testProject | testRegistration | testSource => exact Path.components_join_name hname.isFileName_lower _

theorem isNames_way (hprofile : profile.LeadsDown) (name : ClassName) (kind : ArtifactKind) :
    IsNames (kind.way profile name) := by
  cases kind with
  | publicHeader | includeShim =>
      exact hprofile.libraryDir.append ((IsNames.singleton "inc").append hprofile.nameSpace)
  | publicSource | privateHeader | privateSource => exact hprofile.libraryDir.append (IsNames.singleton _)
  | testProject | testRegistration | testSource => exact hprofile.testsDir.append (IsNames.singleton _)

theorem components_target_directory (hprofile : profile.LeadsDown) (hname : name.IsParsed) (layout : Layout)
    (kind : ArtifactKind) :
    components (layout.target (kind.directory profile name)) =
      components layout.root ++ kind.way profile name := by
  have hway := kind.components_directory hprofile hname
  have hnames : IsNames (components (kind.directory profile name)) := hway ▸ isNames_way hprofile name kind
  rw [← hway]
  exact Path.components_join (Path.anchor_of_isNames hnames) layout.root

theorem components_target (hprofile : profile.LeadsDown) (hname : name.IsParsed) (layout : Layout)
    (kind : ArtifactKind) :
    components (layout.target (kind.path profile name)) =
      components layout.root ++ kind.way profile name ++ [.name (kind.fileName name)] := by
  rw [kind.target_path layout profile hname, Path.components_join_name (kind.isFileName_fileName hname),
    kind.components_target_directory hprofile hname]

end ArtifactKind

namespace Call

variable {render : Renderer} {profile : Profile} {layout : Layout} {call : Call} {tree : FileTree}

/-- What a run changes is what one of its targets leads to, or the directory of a test that it made. -/
theorem target_of_changed {place : Location}
    (h : (call.run render profile layout tree).tree.at? place ≠ tree.at? place) :
    ∃ path, (call.run render profile layout tree).tree.locate? path = some place ∧ ∃ kind ∈ call.kinds,
      path = layout.target (kind.path profile call.name) ∨
      kind ∈ ArtifactKind.testSet ∧ path = layout.target (kind.directory profile call.name) := by
  have hleft := @Attempt.left_run profile layout ⟨call, render, fun _ => none⟩ tree place
  simp only [Attempt.run_of_refuses_none] at hleft
  cases hleft with
  | untouched hsame => exact absurd hsame h
  | @directory path hmade hpath =>
      obtain ⟨className, hcall, -, rfl⟩ := hmade
      obtain rfl : call = .newTest className := hcall
      exact ⟨_, hpath, .testProject, List.mem_cons_self, Or.inr ⟨List.mem_cons_self, rfl⟩⟩
  | @file path content hwritten hpath =>
      obtain ⟨-, artifact, ⟨artifacts, hplan, hartifact⟩, rfl, -⟩ := hwritten
      obtain ⟨-, content, rfl⟩ := planned_of_plan hplan
      obtain ⟨kind, hkind, rfl⟩ := List.mem_map.mp hartifact
      exact ⟨_, hpath, kind, hkind, Or.inl rfl⟩

/-- If the directories of the profile lead down by plain names, so do all targets of an accepted call, from
whatever root: behind the components of the root stand those of the directory and one plain name, the name of
the file. And whatever stands in the tree, a run changes only what paths of this form lead to, or the directory
of its test. -/
theorem stays_below_root (hprofile : profile.LeadsDown) (layout : Layout) (call : Call)
    (haccepted : call.IsAccepted) :
    (∀ kind ∈ call.kinds,
      components (layout.target (kind.path profile call.name)) =
        components layout.root ++ kind.way profile call.name ++ [.name (kind.fileName call.name)] ∧
      IsNames (kind.way profile call.name) ∧ Path.IsFileName (kind.fileName call.name)) ∧
    ∀ (render : Renderer) (tree : FileTree) (place : Location),
      (call.run render profile layout tree).tree.at? place ≠ tree.at? place →
      ∃ path, (call.run render profile layout tree).tree.locate? path = some place ∧ ∃ kind ∈ call.kinds,
        components path =
          components layout.root ++ kind.way profile call.name ++ [.name (kind.fileName call.name)] ∨
        kind ∈ ArtifactKind.testSet ∧ components path = components layout.root ++ kind.way profile call.name := by
  have hname := isParsed_name haccepted
  constructor
  · intro kind _
    exact ⟨kind.components_target hprofile hname layout, kind.isNames_way hprofile call.name,
      kind.isFileName_fileName hname⟩
  · intro render tree place hchanged
    obtain ⟨path, hpath, kind, hkind, rfl | ⟨htest, rfl⟩⟩ := target_of_changed hchanged
    · exact ⟨_, hpath, kind, hkind, Or.inl (kind.components_target hprofile hname layout)⟩
    · exact ⟨_, hpath, kind, hkind, Or.inr ⟨htest, kind.components_target_directory hprofile hname layout⟩⟩

/-- A test goes below a root and directories that are spelled with more slashes and dots than they need. -/
theorem stays_below_root_job :
    let render : Renderer := fun template _ => .ok template
    let profile : Profile :=
      { Profile.synqClient with libraryDir := "lib/./core/", nameSpace := "a//b", testsDir := "t/u" }
    let layout : Layout := ⟨"/srv//./"⟩
    let call : Call := .newTest "Job"
    let tree : FileTree :=
      ⟨[(["srv"], .directory), (["srv", "t"], .directory), (["srv", "t", "u"], .directory)], []⟩
    let run := call.run render profile layout tree
    let place : Location := ["srv", "t", "u", "job", "job.pro"]
    profile.LeadsDown ∧ call.IsAccepted ∧ .testSource ∈ call.kinds ∧
    components (layout.target (ArtifactKind.testSource.path profile call.name)) =
      [.root, .name "srv", .name "t", .name "u", .name "job", .name "tst_job.cpp"] ∧
    run.tree.at? place ≠ tree.at? place ∧
    ∃ path, run.tree.locate? path = some place ∧ ∃ kind ∈ call.kinds,
      components path =
        components layout.root ++ kind.way profile call.name ++ [.name (kind.fileName call.name)] ∨
      kind ∈ ArtifactKind.testSet ∧ components path = components layout.root ++ kind.way profile call.name := by
  intro render profile layout call tree run place
  have hlibrary : components profile.libraryDir = [.name "lib", .name "core"] := by decide +kernel
  have hspace : components profile.nameSpace = [.name "a", .name "b"] := by decide +kernel
  have htests : components profile.testsDir = [.name "t", .name "u"] := by decide +kernel
  have hprofile : profile.LeadsDown :=
    ⟨hlibrary ▸ (IsNames.singleton "lib").append (IsNames.singleton "core"),
      hspace ▸ (IsNames.singleton "a").append (IsNames.singleton "b"),
      htests ▸ (IsNames.singleton "t").append (IsNames.singleton "u")⟩
  have haccepted : call.IsAccepted := isIdentifier_iff.mp (by decide +kernel)
  have hkind : .testSource ∈ call.kinds := List.mem_of_elem_eq_true rfl
  have hchanged : run.tree.at? place ≠ tree.at? place := by decide +kernel
  obtain ⟨htargets, hchanges⟩ := stays_below_root hprofile layout call haccepted
  have htarget := (htargets .testSource hkind).1
  refine ⟨hprofile, haccepted, hkind, htarget.trans ?_, hchanged, hchanges render tree place hchanged⟩
  decide +kernel

end Call

end Scaffold
