import Scaffold.Proofs.FileTree.Refill
import Scaffold.Proofs.History

/-! Files written in order. They are written one after the other up to the first that the system refuses, whose
path the error names, and what was written till then stays. Many of the paths may lead to one file, be it
spelled alike or reached through links and steps back; it then holds what was written there last. Writing
two lists one behind the other is writing the first and, if that succeeds, the second. -/

namespace Scaffold

/-! ### One run of steps behind another -/

/-- Goes on in the tree that was left, unless an error ended what was done so far. -/
def Outcome.followedBy (outcome : Outcome (List Text)) (next : FileTree → Outcome (List Text)) :
    Outcome (List Text) :=
  match outcome.result with
  | .error _ => outcome
  | .ok written => ((next outcome.tree).map (written ++ ·)).behind outcome.events

theorem Outcome.followedBy_behind_map (outcome : Outcome (List Text)) (next : FileTree → Outcome (List Text))
    (written : List Text) (events : List Event) :
    ((outcome.map (written ++ ·)).behind events).followedBy next =
      ((outcome.followedBy next).map (written ++ ·)).behind events := by
  obtain ⟨⟨told, result⟩, tree⟩ := outcome
  cases result with
  | error error => rfl
  | ok paths =>
      simp only [followedBy, map, behind, Except.map, List.append_assoc]
      cases (next tree).result with
      | error error => rfl
      | ok more => rfl

theorem Step.performAll_append (steps rest : List Step) (tree : FileTree) :
    performAll (steps ++ rest) tree = (performAll steps tree).followedBy (performAll rest) := by
  induction steps generalizing tree with
  | nil =>
      rw [List.nil_append, performAll, Outcome.followedBy]
      simp only [Outcome.map, Outcome.behind, List.nil_append]
      cases hresult : (performAll rest tree).result with
      | error error => simp only [Except.map, ← hresult]
      | ok written => simp only [Except.map, ← hresult]
  | cons step steps ih =>
      rw [List.cons_append, performAll, performAll]
      cases step.perform tree with
      | error error => rfl
      | ok answer => simp only [ih, Outcome.followedBy_behind_map]

namespace Layout

variable {layout : Layout} {artifacts : List Artifact} {tree later : FileTree} {artifact : Artifact}
  {place : Location}

/-! ### Files in order -/

/-- The tree with the files written one after the other, if none of them is refused. -/
def writeInOrder (layout : Layout) (artifacts : List Artifact) (tree : FileTree) : Except Fault FileTree :=
  artifacts.foldlM (fun tree artifact => tree.writeFile (layout.target artifact.path) artifact.content) tree

/-- What is told of a file that was written. -/
def told (layout : Layout) (artifact : Artifact) : Event := .wrote (layout.target artifact.path)

theorem writeInOrder_cons_eq_ok_iff : layout.writeInOrder (artifact :: artifacts) tree = .ok later ↔
    ∃ middle, tree.writeFile (layout.target artifact.path) artifact.content = .ok middle ∧
      layout.writeInOrder artifacts middle = .ok later := by
  rw [writeInOrder, List.foldlM_cons]
  cases tree.writeFile (layout.target artifact.path) artifact.content with
  | error fault => simp [bind, Except.bind]
  | ok middle => simp [bind, Except.bind, writeInOrder]

theorem performed_of_writeInOrder (h : layout.writeInOrder artifacts tree = .ok later) :
    Step.Performed (layout.fileSteps artifacts) (artifacts.map layout.told) tree later := by
  induction artifacts generalizing tree with
  | nil =>
      obtain rfl := Except.ok.inj h
      exact .nil tree
  | cons artifact artifacts ih =>
      obtain ⟨middle, hwrite, hrest⟩ := writeInOrder_cons_eq_ok_iff.mp h
      obtain ⟨place, hwrites, hwritable, rfl⟩ := FileTree.writeFile_eq_ok_iff.mp hwrite
      exact .cons (.written artifact.content hwrites hwritable) (ih hrest)

/-- All files are written, or those ahead of the first that is refused. -/
theorem writeAll_cases (layout : Layout) (artifacts : List Artifact) (tree : FileTree) :
    ∃ done rest later, artifacts = done ++ rest ∧ layout.writeInOrder done tree = .ok later ∧
      (rest = [] ∧
          layout.writeAll artifacts tree = ⟨⟨done.map layout.told, .ok (done.map (layout.target ·.path))⟩, later⟩ ∨
        ∃ failing after fault, rest = failing :: after ∧
          later.writeFile (layout.target failing.path) failing.content = .error fault ∧
          layout.writeAll artifacts tree =
            ⟨⟨done.map layout.told, .error (.write (layout.target failing.path) fault)⟩, later⟩) := by
  induction artifacts generalizing tree with
  | nil => exact ⟨[], [], tree, rfl, rfl, Or.inl ⟨rfl, rfl⟩⟩
  | cons artifact artifacts ih =>
      cases hwrite : tree.writeFile (layout.target artifact.path) artifact.content with
      | error fault =>
          refine ⟨[], artifact :: artifacts, tree, rfl, rfl, Or.inr ⟨artifact, artifacts, fault, rfl, hwrite, ?_⟩⟩
          rw [writeAll, fileSteps, List.map_cons, Step.performAll, Step.perform, hwrite]
          rfl
      | ok middle =>
          obtain ⟨done, rest, later, rfl, hdone, hend⟩ := ih middle
          have hall : layout.writeAll (artifact :: (done ++ rest)) tree =
              ((layout.writeAll (done ++ rest) middle).map ([layout.target artifact.path] ++ ·)).behind
                [layout.told artifact] := by
            rw [writeAll, fileSteps, List.map_cons, Step.performAll, Step.perform, hwrite]
            rfl
          refine ⟨artifact :: done, rest, later, rfl,
            writeInOrder_cons_eq_ok_iff.mpr ⟨middle, hwrite, hdone⟩, ?_⟩
          rcases hend with ⟨rfl, hwritten⟩ | ⟨failing, after, fault, rfl, hfault, hwritten⟩
          · exact Or.inl ⟨rfl, by rw [hall, hwritten]; rfl⟩
          · exact Or.inr ⟨failing, after, fault, rfl, hfault, by rw [hall, hwritten]; rfl⟩

/-! ### What is read afterwards -/

/-- Where none of the written paths leads all is as it was. -/
theorem at?_of_writeInOrder (h : layout.writeInOrder artifacts tree = .ok later)
    (hother : ∀ artifact ∈ artifacts, later.locate? (layout.target artifact.path) ≠ some place) :
    later.at? place = tree.at? place := by
  cases (performed_of_writeInOrder h).left place with
  | untouched hsame => exact hsame
  | directory hmade => exact absurd hmade (Call.directory_notMem_fileSteps layout artifacts _)
  | file hwritten hpath =>
      obtain ⟨artifact, hartifact, hstep⟩ := List.mem_map.mp hwritten.1
      obtain ⟨rfl, -⟩ := Step.file.inj hstep
      exact absurd hpath (hother artifact hartifact)

/-- The path of a file that was written leads to it in every later tree. -/
theorem locate?_of_writeFile {path content : Text} (h : tree.writeFile path content = .ok later) :
    ∃ place, tree.Writes path place ∧ later.at? place = some (.file content) ∧
      ∀ latest, later.Grows latest → latest.locate? path = some place := by
  obtain ⟨place, hwrites, hwritable, rfl⟩ := FileTree.writeFile_eq_ok_iff.mp h
  have hentry := FileTree.at?_set_self tree hwrites.ne_nil (.file content)
  refine ⟨place, hwrites, hentry, fun latest hlatest => hlatest.locate? ?_⟩
  exact (hwrites.mono (hwritable.grows content)).locate? (hentry ▸ Option.some_ne_none _)

/-- The last of the files whose path leads to the place. -/
def IsLastAt (layout : Layout) (tree : FileTree) (artifacts : List Artifact) (place : Location)
    (last : Artifact) : Prop :=
  ∃ before after, artifacts = before ++ last :: after ∧ tree.locate? (layout.target last.path) = some place ∧
    ∀ other ∈ after, tree.locate? (layout.target other.path) ≠ some place

/-- Every written path leads to a file, which holds the content of the last one that leads there. -/
theorem exists_isLastAt_of_writeInOrder (h : layout.writeInOrder artifacts tree = .ok later)
    (hartifact : artifact ∈ artifacts) :
    ∃ place last, later.locate? (layout.target artifact.path) = some place ∧
      layout.IsLastAt later artifacts place last ∧ later.at? place = some (.file last.content) := by
  induction artifacts generalizing tree artifact with
  | nil => exact absurd hartifact List.not_mem_nil
  | cons head rest ih =>
      obtain ⟨middle, hwrite, hrest⟩ := writeInOrder_cons_eq_ok_iff.mp h
      by_cases hlater : ∃ other ∈ rest, later.locate? (layout.target other.path) =
          later.locate? (layout.target artifact.path)
      · obtain ⟨other, hother, hsame⟩ := hlater
        obtain ⟨place, last, hlocate, ⟨before, after, rfl, hlast⟩, hentry⟩ := ih hrest hother
        exact ⟨place, last, hsame.symm.trans hlocate, ⟨head :: before, after, rfl, hlast⟩, hentry⟩
      · -- Nothing behind the first file leads where this one does, so that it is the first.
        obtain rfl : artifact = head := (List.mem_cons.mp hartifact).resolve_right
          fun hmem => hlater ⟨artifact, hmem, rfl⟩
        obtain ⟨place, -, hentry, hlocate⟩ := locate?_of_writeFile hwrite
        have hplace := hlocate later (performed_of_writeInOrder hrest).grows
        have hother : ∀ other ∈ rest, later.locate? (layout.target other.path) ≠ some place :=
          fun other hmem heq => hlater ⟨other, hmem, heq.trans hplace.symm⟩
        exact ⟨place, artifact, hplace, ⟨[], rest, rfl, hplace, hother⟩,
          (at?_of_writeInOrder hrest hother).trans hentry⟩

/-! ### Which files can be written -/

/-- Files can be written in order exactly if each could be written at once. -/
theorem writeInOrder_ok_iff : (∃ later, layout.writeInOrder artifacts tree = .ok later) ↔
    ∀ artifact ∈ artifacts, ∃ next, tree.writeFile (layout.target artifact.path) artifact.content = .ok next := by
  induction artifacts generalizing tree with
  | nil => exact ⟨fun _ artifact hartifact => absurd hartifact List.not_mem_nil, fun _ => ⟨tree, rfl⟩⟩
  | cons head rest ih =>
      rw [List.forall_mem_cons]
      constructor
      · rintro ⟨later, hall⟩
        obtain ⟨middle, hwrite, hrest⟩ := writeInOrder_cons_eq_ok_iff.mp hall
        have hrefills := FileTree.refills_of_writeFile hwrite
        exact ⟨⟨middle, hwrite⟩, fun artifact hartifact =>
          hrefills.writeFile_ok_iff.mp (ih.mp ⟨later, hrest⟩ artifact hartifact)⟩
      · rintro ⟨⟨middle, hwrite⟩, hrest⟩
        have hrefills := FileTree.refills_of_writeFile hwrite
        obtain ⟨later, hlater⟩ := ih.mpr fun artifact hartifact =>
          hrefills.writeFile_ok_iff.mpr (hrest artifact hartifact)
        exact ⟨later, writeInOrder_cons_eq_ok_iff.mpr ⟨middle, hwrite, hlater⟩⟩

/-- A file is found where its path led before any was written. -/
theorem writes_of_writeInOrder (h : layout.writeInOrder artifacts tree = .ok later)
    (hartifact : artifact ∈ artifacts) : ∃ place, tree.Writes (layout.target artifact.path) place ∧
      later.locate? (layout.target artifact.path) = some place := by
  induction artifacts generalizing tree artifact with
  | nil => exact absurd hartifact List.not_mem_nil
  | cons head rest ih =>
      obtain ⟨middle, hwrite, hrest⟩ := writeInOrder_cons_eq_ok_iff.mp h
      rcases List.mem_cons.mp hartifact with rfl | hmem
      · obtain ⟨place, hwrites, -, hlocate⟩ := locate?_of_writeFile hwrite
        exact ⟨place, hwrites, hlocate later (performed_of_writeInOrder hrest).grows⟩
      · obtain ⟨place, ⟨parent, name, rfl, hresolve⟩, hlocate⟩ := ih hrest hmem
        exact ⟨_, ⟨parent, name, rfl, (FileTree.refills_of_writeFile hwrite).resolve_eq_ok_iff.mp hresolve⟩, hlocate⟩

theorem refills_of_writeInOrder (h : layout.writeInOrder artifacts tree = .ok later) : tree.Refills later := by
  induction artifacts generalizing tree with
  | nil =>
      obtain rfl := Except.ok.inj h
      exact .refl tree
  | cons head rest ih =>
      obtain ⟨middle, hwrite, hrest⟩ := writeInOrder_cons_eq_ok_iff.mp h
      exact (FileTree.refills_of_writeFile hwrite).trans (ih hrest)

/-- All files are written and listed exactly if they can be written in order. -/
theorem writeAll_eq_ok_iff {paths : List Text} :
    ((layout.writeAll artifacts tree).result = .ok paths ∧ (layout.writeAll artifacts tree).tree = later) ↔
      layout.writeInOrder artifacts tree = .ok later ∧ paths = artifacts.map (layout.target ·.path) := by
  constructor
  · rintro ⟨hresult, rfl⟩
    obtain ⟨done, rest, later, rfl, hdone, ⟨rfl, hall⟩ | ⟨failing, after, fault, -, -, hall⟩⟩ :=
      layout.writeAll_cases artifacts tree
    · rw [List.append_nil] at hall hresult ⊢
      rw [hall] at hresult ⊢
      exact ⟨hdone, (Except.ok.inj hresult).symm⟩
    · rw [hall] at hresult
      cases hresult
  · rintro ⟨hall, rfl⟩
    obtain ⟨hresult, htree⟩ := Step.performAll_of_performed (performed_of_writeInOrder hall) []
    rw [List.append_nil] at hresult htree
    rw [flatMap_written_fileSteps] at hresult
    exact ⟨hresult.trans (congrArg Except.ok (List.append_nil _)), htree⟩

end Layout

theorem FileTree.contentAt?_of_locate? {tree : FileTree} {path content : Text} {place : Location}
    (hlocate : tree.locate? path = some place) (hentry : tree.at? place = some (.file content)) :
    tree.contentAt? path = some content := by
  rw [contentAt?, hlocate, Option.bind_some, hentry]

/-- If no two of the files lead to one place, each reads as its own content afterwards. -/
theorem Layout.contentAt?_of_writeInOrder {layout : Layout} {artifacts : List Artifact} {tree later : FileTree}
    (h : layout.writeInOrder artifacts tree = .ok later)
    (hapart : ∀ artifact ∈ artifacts, ∀ other ∈ artifacts, ∀ place, tree.Writes (layout.target artifact.path) place →
      tree.Writes (layout.target other.path) place → artifact = other)
    {artifact : Artifact} (hartifact : artifact ∈ artifacts) :
    later.contentAt? (layout.target artifact.path) = some artifact.content := by
  obtain ⟨place, last, hlocate, ⟨before, after, rfl, hlast, -⟩, hentry⟩ := exists_isLastAt_of_writeInOrder h hartifact
  have hmem : last ∈ before ++ last :: after := List.mem_append_right _ List.mem_cons_self
  obtain ⟨there, hwrites, hthere⟩ := writes_of_writeInOrder h hartifact
  obtain ⟨where', hwrites', hwhere⟩ := writes_of_writeInOrder h hmem
  obtain rfl := Option.some.inj (hlocate.symm.trans hthere)
  obtain rfl := Option.some.inj (hlast.symm.trans hwhere)
  obtain rfl := hapart artifact hartifact last hmem place hwrites hwrites'
  exact FileTree.contentAt?_of_locate? hlocate hentry

/-- Files are written in order, in whatever tree and at whatever paths. All are written, and the result lists
their targets, or those ahead of the first that the system refuses in the tree that these leave, and the error
names its target. The tree is the one that writing them leaves: every written target reads as the last file
that leads to the same place, and what stands where none of them leads is as it was. Writing more files behind
these is writing these and, if that succeeds, the others. -/
theorem Layout.writeAll_in_order (layout : Layout) (artifacts more : List Artifact) (tree : FileTree) :
    (∃ done rest later, artifacts = done ++ rest ∧ layout.writeInOrder done tree = .ok later ∧
      (rest = [] ∧ layout.writeAll artifacts tree =
          ⟨⟨done.map layout.told, .ok (done.map (layout.target ·.path))⟩, later⟩ ∨
        ∃ failing after fault, rest = failing :: after ∧
          later.writeFile (layout.target failing.path) failing.content = .error fault ∧
          layout.writeAll artifacts tree =
            ⟨⟨done.map layout.told, .error (.write (layout.target failing.path) fault)⟩, later⟩) ∧
      (∀ artifact ∈ done, ∃ place last, later.locate? (layout.target artifact.path) = some place ∧
        layout.IsLastAt later done place last ∧
        later.contentAt? (layout.target artifact.path) = some last.content) ∧
      later.workingDirectory = tree.workingDirectory ∧
      ∀ place, (∀ artifact ∈ done, later.locate? (layout.target artifact.path) ≠ some place) →
        later.at? place = tree.at? place) ∧
    layout.writeAll (artifacts ++ more) tree = (layout.writeAll artifacts tree).followedBy (layout.writeAll more) := by
  constructor
  · obtain ⟨done, rest, later, hartifacts, hdone, hend⟩ := layout.writeAll_cases artifacts tree
    refine ⟨done, rest, later, hartifacts, hdone, hend, fun artifact hartifact => ?_,
      (performed_of_writeInOrder hdone).grows.workingDirectory_eq, fun place => at?_of_writeInOrder hdone⟩
    obtain ⟨place, last, hlocate, hlast, hentry⟩ := exists_isLastAt_of_writeInOrder hdone hartifact
    exact ⟨place, last, hlocate, hlast, FileTree.contentAt?_of_locate? hlocate hentry⟩
  · rw [writeAll, fileSteps, List.map_append]
    exact Step.performAll_append _ _ tree

/-- Two paths, one of them through a link, lead to one file, which holds what was written last. -/
example :
    let tree : FileTree := ⟨[(["r"], .directory), (["r", "a"], .directory), (["r", "b"], .link "a")], []⟩
    let written := (Layout.writeAll ⟨"/r"⟩ [⟨.testSource, "a/x", "one"⟩, ⟨.testSource, "b/../a/./x", "two"⟩,
      ⟨.testSource, "a/x/y", "three"⟩] tree).tree
    written.contentAt? "/r/a/x" = some ("two" : Text) := by decide +kernel

end Scaffold
