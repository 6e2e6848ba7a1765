import Scaffold.Layout
import Scaffold.Proofs.Path.Depth
import Scaffold.Proofs.Told

/-! Where the root of a repository is found. A program lies in a directory of tools directly below the root, so
that the root has all components of the path of the program but the last two. A path without two such
components leads to no root. How the path is spelled makes no difference to what is written below the root. -/

namespace Scaffold.Layout

open Scaffold.Path (depth components)

theorem ofTool_cases (tool : Text) :
    (depth tool < 2 ∧ (ofTool tool).result = .error (.layout (.noGrandparent tool))) ∨
    ∃ layout directory file, (ofTool tool).result = .ok layout ∧ 2 ≤ depth tool ∧
      components tool = components layout.root ++ [directory, file] := by
  rcases Path.parent?_cases tool with ⟨hparent, hslash⟩ | ⟨parent, file, hparent, hfile, htool⟩
  · have hdepth := Path.depth_of_parent?_eq_none hslash
    refine Or.inl ⟨by omega, ?_⟩
    rw [ofTool, hparent, Option.bind_none]
    rfl
  · have hdepth := Path.depth_of_components hfile htool
    rcases Path.parent?_cases parent with ⟨hroot, hslash⟩ | ⟨root, directory, hroot, hdirectory, hcomponents⟩
    · have hdepth' := Path.depth_of_parent?_eq_none hslash
      refine Or.inl ⟨by omega, ?_⟩
      rw [ofTool, hparent, Option.bind_some, hroot]
      rfl
    · have hdepth' := Path.depth_of_components hdirectory hcomponents
      refine Or.inr ⟨⟨root⟩, directory, file, ?_, by omega, ?_⟩
      · rw [ofTool, hparent, Option.bind_some, hroot]
        rfl
      · rw [htool, hcomponents, List.append_assoc, List.singleton_append]

theorem depth_append_two {tool root directory file : Text}
    (h : components tool = components root ++ [.name directory, .name file]) : 2 ≤ depth tool := by
  rw [Path.depth_eq, h, List.countP_append]
  simp

/-- Layouts whose roots have the same components have the same targets, component by component. -/
theorem components_target_congr {layout other : Layout} (h : components layout.root = components other.root)
    (path : Text) : components (layout.target path) = components (other.target path) :=
  Path.components_join_congr h path

/-- A root is found for a program exactly if two pieces of its path count; it has the components of the path
without the last two. So a program that is put into a directory of tools below any root, be the root empty,
absolute or spelled with more slashes and dots than it needs, finds this root again, and writes every file where
it goes below the root as it was spelled. -/
theorem root_found_above_tools :
    (∀ tool : Text,
      ((∃ layout, (ofTool tool).result = .ok layout) ↔ 2 ≤ depth tool) ∧
      (∀ layout, (ofTool tool).result = .ok layout →
        components layout.root = (components tool).dropLast.dropLast) ∧
      (¬2 ≤ depth tool → (ofTool tool).result = .error (.layout (.noGrandparent tool)))) ∧
    ∀ root directory file : Text, Path.IsFileName directory → Path.IsFileName file →
      ∃ layout, (ofTool (Path.join (Path.join root directory) file)).result = .ok layout ∧
        components layout.root = components root ∧
        ∀ artifact : Artifact,
          components (layout.target artifact.path) = components (Layout.target ⟨root⟩ artifact.path) := by
  constructor
  · intro tool
    rcases ofTool_cases tool with ⟨hdepth, herror⟩ | ⟨layout, directory, file, hok, hdepth, htool⟩
    · refine ⟨⟨?_, fun h => absurd h (by omega)⟩, ?_, fun _ => herror⟩
      · rintro ⟨layout, hok⟩
        rw [herror] at hok
        cases hok
      · intro layout hok
        rw [herror] at hok
        cases hok
    · refine ⟨⟨fun _ => hdepth, fun _ => ⟨layout, hok⟩⟩, ?_, fun h => absurd hdepth h⟩
      intro other hother
      obtain rfl := Except.ok.inj (hok.symm.trans hother)
      have htwo : [directory, file] = [directory] ++ [file] := rfl
      rw [htool, htwo, ← List.append_assoc, List.dropLast_concat, List.dropLast_concat]
  · intro root directory file hdirectory hfile
    have htool : components (Path.join (Path.join root directory) file) =
        components root ++ [.name directory, .name file] := by
      rw [Path.components_join_name hfile, Path.components_join_name hdirectory, List.append_assoc,
        List.singleton_append]
    rcases ofTool_cases (Path.join (Path.join root directory) file) with
      ⟨hdepth, -⟩ | ⟨layout, directory', file', hok, -, htool'⟩
    · exact absurd (depth_append_two htool) (by omega)
    · have hroot : components layout.root = components root :=
        (List.append_inj' (htool'.symm.trans htool) rfl).1
      exact ⟨layout, hok, hroot, fun artifact => components_target_congr hroot artifact.path⟩

/-- Slashes and dots do not count, a dot in front does. -/
theorem root_found_above_tools_dots :
    ¬2 ≤ depth "/new-class/." ∧
    (ofTool "/new-class/.").result = .error (.layout (.noGrandparent "/new-class/.")) ∧
    Path.IsFileName "utils" ∧ Path.IsFileName "new-class" ∧
    ∃ layout, (ofTool (Path.join (Path.join ".//repo/./.." "utils") "new-class")).result = .ok layout ∧
      components layout.root = [.here, .name "repo", .up] ∧
      components (layout.target "tests/job") = [.here, .name "repo", .up, .name "tests", .name "job"] := by
  have hdepth : ¬2 ≤ depth "/new-class/." := by decide +kernel
  have hutils : Path.IsFileName "utils" := Path.IsFileName.of_isIdentifier (by decide +kernel)
  have htool : Path.IsFileName "new-class" :=
    ⟨by decide +kernel, by decide +kernel, by decide +kernel, by decide +kernel⟩
  obtain ⟨hall, hjoined⟩ := root_found_above_tools
  obtain ⟨-, -, herror⟩ := hall "/new-class/."
  obtain ⟨layout, hok, hroot, htargets⟩ := hjoined ".//repo/./.." "utils" "new-class" hutils htool
  have htarget := htargets ⟨.testProject, "tests/job", []⟩
  refine ⟨hdepth, herror hdepth, hutils, htool, layout, hok, hroot.trans ?_, htarget.trans ?_⟩
  · decide +kernel
  · decide +kernel

end Scaffold.Layout
