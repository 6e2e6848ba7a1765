import Scaffold.Proofs.FileTree.Below
import Scaffold.Proofs.Step

/-! What prevents a step below a root in a tree without links, and what a tree holds after steps were done in it by
whomever. A step is prevented by the way to its place or by what stands there; steps of others change neither,
as long as nobody else builds on the way to it or puts another entry at its place. -/

namespace Scaffold

namespace Step

/-- The path that a step is about. -/
def path : Step → Text
  | .directory path => path
  | .file path _ => path

/-- What a step puts at its place. -/
def entry : Step → Entry
  | .directory _ => .directory
  | .file _ content => .file content

/-- The names of the path of a step behind those of a root. -/
def below (root : Text) (step : Step) : List Text :=
  (Route.ofPath step.path).names.drop (Route.ofPath root).names.length

/-- The path of the step leads to the root and down from there. -/
def IsBelow (root : Text) (step : Step) : Prop := Scaffold.IsBelow root step.path (step.below root)

/-- The place of a step below the root. -/
def Stands (root : Text) (tree : FileTree) (step : Step) (place : Location) : Prop :=
  ∃ base, tree.rootOf root = .ok base ∧ place = base ++ step.below root

/-- The fault that a step meets at its place. -/
def resistance : Step → Option Entry → Option Fault
  | .directory _, none => none
  | .directory _, some .directory => none
  | .directory _, some _ => some .fileExists
  | .file _ _, some .directory => some .isDirectory
  | .file _ _, some .program => some .programRuns
  | .file _ _, _ => none

/-- The fault that a step meets on its way or at its place. -/
def obstacle (tree : FileTree) (step : Step) : Option Fault :=
  match tree.placeOf step.path with
  | .error fault => some fault
  | .ok place => step.resistance (tree.at? place)

variable {root : Text} {tree later : FileTree} {step : Step} {event : Event} {found : Option Entry} {place : Location}

/-! ### One step -/

theorem resistance_of_grown (h : Grown found (some step.entry)) : step.resistance found = none := by
  cases step with
  | directory path =>
      rw [entry] at h
      cases h with
      | same => rfl
      | newDirectory => rfl
  | file path content =>
      rw [entry] at h
      cases h with
      | same => rfl
      | rewritten => rfl
      | newFile => rfl

theorem grown_of_resistance (hlink : ∀ target, found ≠ some (.link target)) (h : step.resistance found = none) :
    Grown found (some step.entry) := by
  cases step with
  | directory path =>
      cases found with
      | none => exact .newDirectory
      | some entry =>
          cases entry with
          | directory => exact .same _
          | file | program | link => exact nomatch h
  | file path content =>
      cases found with
      | none => exact .newFile content
      | some entry =>
          cases entry with
          | file old => exact .rewritten old content
          | link target => exact absurd rfl (hlink target)
          | directory | program => exact nomatch h

/-- A step that was done put its entry at its place and nothing anywhere else. -/
theorem Does.puts (hlinks : tree.LinkFree) (hbelow : step.IsBelow root) (h : Does tree step event later) :
    ∃ place, tree.placeOf step.path = .ok place ∧ Grown (tree.at? place) (some step.entry) ∧
      later.at? place = some step.entry ∧ ∀ other, other ≠ place → later.at? other = tree.at? other := by
  obtain ⟨name, hends⟩ := Scaffold.IsBelow.endsIn hbelow
  cases h with
  | found hfound =>
      obtain ⟨place, hplace, hentry⟩ := (FileTree.isDirectory_iff_placeOf hlinks hends).mp hfound
      exact ⟨place, hplace, hentry ▸ .same _, hentry, fun _ _ => rfl⟩
  | made hmakes hfree =>
      have hset := FileTree.at?_set_self tree hmakes.ne_nil .directory
      obtain ⟨parent, last, slash, rfl, hresolve⟩ := hmakes
      exact ⟨_, FileTree.placeOf_of_resolve hlinks hends hresolve, hfree ▸ .newDirectory, hset,
        fun other hother => FileTree.at?_set_of_ne tree hother _⟩
  | written content hwrites hwritable =>
      have hset := FileTree.at?_set_self tree hwrites.ne_nil (.file content)
      obtain ⟨parent, last, rfl, hresolve⟩ := hwrites
      refine ⟨_, FileTree.placeOf_of_resolve hlinks hends hresolve, ?_, hset,
        fun other hother => FileTree.at?_set_of_ne tree hother _⟩
      rcases hwritable with hfree | ⟨old, hfile⟩
      · exact hfree ▸ .newFile content
      · exact hfile ▸ .rewritten old content

theorem obstacle_of_does (hlinks : tree.LinkFree) (hbelow : step.IsBelow root) (h : Does tree step event later) :
    step.obstacle tree = none := by
  obtain ⟨place, hplace, hgrown, -⟩ := h.puts hlinks hbelow
  rw [obstacle, hplace]
  exact resistance_of_grown hgrown

theorem does_of_obstacle (hlinks : tree.LinkFree) (hbelow : step.IsBelow root) (h : step.obstacle tree = none) :
    ∃ event later, Does tree step event later := by
  obtain ⟨name, hends⟩ := Scaffold.IsBelow.endsIn hbelow
  rcases FileTree.resolve_cases hlinks hends with ⟨fault, hplace, -⟩ | ⟨parent, hplace, hresolve⟩
  · rw [obstacle, hplace] at h
    exact nomatch h
  · rw [obstacle, hplace] at h
    have hgrown := grown_of_resistance (hlinks _) h
    generalize hentry : tree.at? (parent ++ [name]) = found at hgrown
    cases step with
    | directory path =>
        rw [entry] at hgrown
        cases hgrown with
        | same => exact ⟨_, _, .found ((FileTree.isDirectory_iff_placeOf hlinks hends).mpr ⟨_, hplace, hentry⟩)⟩
        | newDirectory => exact ⟨_, _, .made ⟨parent, name, false, rfl, hresolve _⟩ hentry⟩
    | file path content =>
        have hwritable : FileTree.IsWritable (tree.at? (parent ++ [name])) := by
          rw [entry] at hgrown
          cases hgrown with
          | same => exact Or.inr ⟨content, hentry⟩
          | rewritten old => exact Or.inr ⟨old, hentry⟩
          | newFile => exact Or.inl hentry
        exact ⟨_, _, .written content ⟨parent, name, rfl, hresolve _⟩ hwritable⟩

theorem obstacle_of_createDirectory {path name : Text} {fault : Fault} (hlinks : tree.LinkFree)
    (hends : FileTree.EndsIn path name) (hcreate : tree.createDirectory path = .error fault)
    (hfound : ¬(fault = .fileExists && tree.isDirectory path)) :
    (Step.directory path).obstacle tree = some fault := by
  rw [obstacle, Step.path]
  rcases FileTree.cases_of_createDirectory hlinks hends hcreate with ⟨hplace, -⟩ | ⟨rfl, place, entry, hplace, hentry⟩
  · rw [hplace]
  · have hdirectory : entry ≠ .directory := by
      rintro rfl
      exact hfound (by simp [(FileTree.isDirectory_iff_placeOf hlinks hends).mpr ⟨place, hplace, hentry⟩])
    simp only [hplace, hentry]
    cases entry with
    | directory => exact absurd rfl hdirectory
    | file | program | link => rfl

theorem obstacle_of_writeFile {path name content : Text} {fault : Fault} (hlinks : tree.LinkFree)
    (hends : FileTree.EndsIn path name) (hwrite : tree.writeFile path content = .error fault) :
    (Step.file path content).obstacle tree = some fault := by
  rw [FileTree.writeFile_eq hlinks hends] at hwrite
  rw [obstacle, Step.path]
  cases hplace : tree.placeOf path with
  | error fault' =>
      rw [hplace] at hwrite
      rw [Except.error.inj hwrite]
  | ok place =>
      rw [hplace, Except.bind] at hwrite
      split at hwrite
      next hentry => simp only [hentry, resistance, Except.error.inj hwrite]
      next hentry => simp only [hentry, resistance, Except.error.inj hwrite]
      · cases hwrite

theorem obstacle_of_perform (hlinks : tree.LinkFree) (hbelow : step.IsBelow root) {error : Error}
    (h : step.perform tree = .error error) :
    ∃ fault, step.obstacle tree = some fault ∧ error = .write step.path fault := by
  obtain ⟨name, hends⟩ := Scaffold.IsBelow.endsIn hbelow
  cases step with
  | directory path =>
      rw [perform] at h
      split at h
      · cases h
      next fault hcreate =>
        split at h
        · cases h
        next hfound =>
          exact ⟨fault, obstacle_of_createDirectory hlinks hends hcreate hfound, (Except.error.inj h).symm⟩
  | file path content =>
      rw [perform] at h
      split at h
      · cases h
      next fault hwrite => exact ⟨fault, obstacle_of_writeFile hlinks hends hwrite, (Except.error.inj h).symm⟩

theorem perform_of_obstacle (hlinks : tree.LinkFree) (hbelow : step.IsBelow root) {fault : Fault}
    (h : step.obstacle tree = some fault) : step.perform tree = .error (.write step.path fault) := by
  cases hperform : step.perform tree with
  | error error =>
      obtain ⟨fault', hobstacle, rfl⟩ := obstacle_of_perform hlinks hbelow hperform
      rw [Option.some.inj (h.symm.trans hobstacle)]
  | ok answer => exact nomatch h.symm.trans (obstacle_of_does hlinks hbelow (does_of_perform hperform))

/-! ### What steps leave -/

/-- The step can come after those that were done, whatever others there are: who builds on the way to it has done so,
and nobody else puts anything at its place. -/
structure Fits (root : Text) (others done : List Step) (step : Step) : Prop where
  isBelow : step.IsBelow root
  way : ∀ builder ∈ others, builder.below root <+: (step.below root).dropLast → builder ∈ done
  same : ∀ builder ∈ others, builder.below root = step.below root → builder = step

/-- The tree is the one at the start with the entries of the steps that were done, and nothing else, put in. -/
structure Built (root : Text) (start : FileTree) (done : List Step) (tree : FileTree) : Prop where
  workingDirectory_eq : tree.workingDirectory = start.workingDirectory
  stands : ∀ step ∈ done, ∀ place, step.Stands root start place →
    tree.at? place = some step.entry ∧ Grown (start.at? place) (some step.entry)
  kept : ∀ place, (∀ step ∈ done, ¬step.Stands root start place) → tree.at? place = start.at? place

namespace Built

variable {start other : FileTree} {done more : List Step}

theorem nil (root : Text) (start : FileTree) : Built root start [] start :=
  ⟨rfl, fun _ h => absurd h List.not_mem_nil, fun _ _ => rfl⟩

theorem grown (h : Built root start done tree) (place : Location) : Grown (start.at? place) (tree.at? place) := by
  by_cases hstands : ∃ step ∈ done, step.Stands root start place
  · obtain ⟨step, hstep, hplace⟩ := hstands
    obtain ⟨hentry, hgrown⟩ := h.stands step hstep place hplace
    exact hentry ▸ hgrown
  · rw [h.kept place fun step hstep hplace => hstands ⟨step, hstep, hplace⟩]
    exact .same _

theorem grows (h : Built root start done tree) : start.Grows tree := ⟨h.workingDirectory_eq, h.grown⟩

theorem linkFree (h : Built root start done tree) (hlinks : start.LinkFree) : tree.LinkFree := h.grows.linkFree hlinks

/-- The root is never built on the way: it is there from the start or it is missing for all. -/
theorem rootOf_eq (h : Built root start done tree) : tree.rootOf root = start.rootOf root := by
  cases hroot : start.rootOf root with
  | ok base => exact h.grows.rootOf hroot
  | error fault =>
      have hsame : ∀ place, tree.at? place = start.at? place := by
        refine fun place => h.kept place ?_
        rintro step - ⟨base, hbase, -⟩
        exact nomatch hroot.symm.trans hbase
      rw [← hroot, FileTree.rootOf, FileTree.rootOf, h.workingDirectory_eq, FileTree.descend_eq_of_at? hsame]

/-- Two trees in which different steps were done: what the one has more is nowhere on the way of a step. -/
theorem placeOf_eq (h : Built root start done tree) (h' : Built root start more other)
    (hsubset : done ⊆ more) (hfits : Fits root more done step) :
    other.placeOf step.path = tree.placeOf step.path := by
  refine FileTree.placeOf_congr hfits.isBelow (h'.rootOf_eq.trans h.rootOf_eq.symm) fun base hbase way hprefix _ => ?_
  rw [h.rootOf_eq] at hbase
  by_cases hbuilder : ∃ builder ∈ more, builder.below root = way
  · obtain ⟨builder, hmore, rfl⟩ := hbuilder
    have hdone := hfits.way builder hmore hprefix
    rw [(h'.stands builder hmore _ ⟨base, hbase, rfl⟩).1, (h.stands builder hdone _ ⟨base, hbase, rfl⟩).1]
  · have hnone : ∀ builder ∈ more, ¬builder.Stands root start (base ++ way) := by
      rintro builder hmore ⟨base', hbase', heq⟩
      obtain rfl := Except.ok.inj (hbase.symm.trans hbase')
      exact hbuilder ⟨builder, hmore, (List.append_cancel_left heq).symm⟩
    rw [h'.kept _ hnone, h.kept _ fun builder hdone => hnone builder (hsubset hdone)]

/-- At the place of a step the trees differ only if it was done in the one and can be done in the other. -/
theorem at?_eq_or (h : Built root start done tree) (h' : Built root start more other) (hsubset : done ⊆ more)
    (hfits : Fits root more done step) (hplace : step.Stands root start place) :
    other.at? place = tree.at? place ∨
      (other.at? place = some step.entry ∧ Grown (tree.at? place) (some step.entry)) := by
  have honly : ∀ builder ∈ more, builder.Stands root start place → builder = step := by
    obtain ⟨base, hbase, rfl⟩ := hplace
    rintro builder hmore ⟨base', hbase', heq⟩
    obtain rfl := Except.ok.inj (hbase.symm.trans hbase')
    exact hfits.same builder hmore (List.append_cancel_left heq).symm
  by_cases hdone : step ∈ done
  · left
    rw [(h'.stands step (hsubset hdone) place hplace).1, (h.stands step hdone place hplace).1]
  · have hkept : tree.at? place = start.at? place :=
      h.kept place fun builder hbuilder hstands => hdone (honly builder (hsubset hbuilder) hstands ▸ hbuilder)
    by_cases hmore : step ∈ more
    · right
      rw [hkept]
      exact h'.stands step hmore place hplace
    · left
      rw [hkept]
      exact h'.kept place fun builder hbuilder hstands => hmore (honly builder hbuilder hstands ▸ hbuilder)

/-- What others did neither prevents a step nor makes it possible. -/
theorem obstacle_eq (h : Built root start done tree) (h' : Built root start more other) (hsubset : done ⊆ more)
    (hfits : Fits root more done step) : step.obstacle other = step.obstacle tree := by
  rw [obstacle, obstacle, placeOf_eq h h' hsubset hfits]
  cases hplace : tree.placeOf step.path with
  | error fault => rfl
  | ok place =>
      obtain ⟨base, hbase, hat⟩ := FileTree.place_eq_of_placeOf hfits.isBelow hplace
      rcases at?_eq_or h h' hsubset hfits ⟨base, h.rootOf_eq.symm.trans hbase, hat⟩ with heq | ⟨heq, hgrown⟩
      · exact congrArg step.resistance heq
      · exact (heq ▸ resistance_of_grown (.same _) : step.resistance (other.at? place) = none).trans
          (resistance_of_grown hgrown).symm

/-- A step that is done adds its entry. -/
theorem does (h : Built root start done tree) (hlinks : start.LinkFree) {others own : List Step}
    (hfits : Fits root others own step) (hsubset : done ⊆ others)
    (hmem : ∀ builder, builder ∈ more ↔ builder ∈ done ∨ builder = step) (hdoes : Does tree step event later) :
    Built root start more later := by
  obtain ⟨place, hplace, hgrown, hentry, hother⟩ := hdoes.puts (h.linkFree hlinks) hfits.isBelow
  obtain ⟨base, hbase, rfl⟩ := FileTree.place_eq_of_placeOf hfits.isBelow hplace
  rw [h.rootOf_eq] at hbase
  refine ⟨hdoes.grows.workingDirectory_eq.trans h.workingDirectory_eq, ?_, ?_⟩
  · rintro builder hbuilder place ⟨base', hbase', rfl⟩
    obtain rfl := Except.ok.inj (hbase.symm.trans hbase')
    by_cases heq : builder.below root = step.below root
    · have hstep : builder = step := by
        rcases (hmem builder).mp hbuilder with hdone | hstep
        · exact hfits.same builder (hsubset hdone) heq
        · exact hstep
      subst hstep
      exact ⟨hentry, (h.grown _).trans hgrown⟩
    · have hdone : builder ∈ done := ((hmem builder).mp hbuilder).resolve_right fun hstep => heq (hstep ▸ rfl)
      rw [hother _ fun hplace => heq (List.append_cancel_left hplace)]
      exact h.stands builder hdone _ ⟨base, hbase, rfl⟩
  · intro place hnone
    have hne : place ≠ base ++ step.below root := fun heq =>
      hnone step ((hmem step).mpr (Or.inr rfl)) ⟨base, hbase, heq⟩
    rw [hother place hne]
    exact h.kept place fun builder hdone => hnone builder ((hmem builder).mpr (Or.inl hdone))

end Built

end Step

end Scaffold
