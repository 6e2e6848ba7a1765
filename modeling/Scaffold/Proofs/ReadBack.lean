import Scaffold.Proofs.Obstacle

/-! What steps leave behind. They are done up to the first that fails, and its error names its path; the files that
were written till then are told one after the other. In a tree without links, steps below a root that go to
different places leave each other's files alone, so that after all of them every file reads as it was written. -/

namespace Scaffold

/-- The file that an event tells was written. -/
def Event.written? : Event → Option Text
  | .wrote path => some path
  | _ => none

/-- The files that were told to be written, in order. -/
def Told.written {α : Type} (told : Told α) : List Text := told.events.filterMap Event.written?

theorem written_eq_nil {events : List Event} (h : ∀ path, .wrote path ∉ events) :
    events.filterMap Event.written? = [] := by
  rw [List.filterMap_eq_nil_iff]
  intro event hmem
  cases event with
  | wrote path => exact absurd hmem (h path)
  | _ => rfl

namespace Step

variable {tree later latest : FileTree} {path content : Text} {event : Event} {step : Step} {steps : List Step}
  {events : List Event}

/-! ### How steps end -/

theorem Does.written_eq (h : Does tree step event later) : event.written?.toList = step.written := by
  cases h <;> rfl

theorem Performed.written_eq (h : Performed steps events tree later) :
    events.filterMap Event.written? = steps.flatMap written := by
  induction h with
  | nil => rfl
  | @cons step steps event events _ _ _ hdoes _ ih =>
      rw [List.flatMap_cons, ← hdoes.written_eq, ← ih, List.filterMap_cons]
      cases event.written? <;> rfl

theorem error_of_perform {error : Error} (h : step.perform tree = .error error) :
    ∃ fault, error = .write step.path fault := by
  cases step with
  | directory path =>
      rw [perform] at h
      split at h
      · cases h
      · split at h
        · cases h
        · exact ⟨_, (Except.error.inj h).symm⟩
  | file path content =>
      rw [perform] at h
      split at h
      · cases h
      · exact ⟨_, (Except.error.inj h).symm⟩

/-- All steps are done, or those ahead of one that fails. -/
theorem performAll_ends (steps : List Step) (tree : FileTree) :
    ∃ done rest events later, steps = done ++ rest ∧ Performed done events tree later ∧
      (rest = [] ∧ performAll steps tree = ⟨⟨events, .ok (done.flatMap written)⟩, later⟩ ∨
      ∃ step tail fault, rest = step :: tail ∧
        performAll steps tree = ⟨⟨events, .error (.write step.path fault)⟩, later⟩) := by
  obtain ⟨done, rest, events, later, rfl, hdone, hall, hrest⟩ := performAll_cases steps tree
  refine ⟨done, rest, events, later, rfl, hdone, ?_⟩
  rw [hall]
  rcases hrest with rfl | ⟨step, tail, error, rfl, herror⟩
  · refine Or.inl ⟨rfl, ?_⟩
    simp only [performAll, Except.map, List.append_nil]
  · obtain ⟨fault, rfl⟩ := error_of_perform herror
    refine Or.inr ⟨step, tail, fault, rfl, ?_⟩
    rw [performAll, herror]
    rfl

/-! ### What is read afterwards -/

variable {root : Text} {base : Location} {names : List Text}

/-- What stands where none of the steps goes is kept. -/
theorem Performed.kept (h : Performed steps events tree later) (hlinks : tree.LinkFree)
    (hbelow : ∀ step ∈ steps, step.IsBelow root) (hroot : tree.rootOf root = .ok base)
    (hother : ∀ step ∈ steps, step.below root ≠ names) : later.at? (base ++ names) = tree.at? (base ++ names) := by
  induction h with
  | nil => rfl
  | cons hdoes _ ih =>
      obtain ⟨place, hplace, -, -, hkept⟩ := hdoes.puts hlinks (hbelow _ List.mem_cons_self)
      obtain ⟨start, hstart, rfl⟩ := FileTree.place_eq_of_placeOf (hbelow _ List.mem_cons_self) hplace
      obtain rfl := Except.ok.inj (hroot.symm.trans hstart)
      have hne : base ++ names ≠ base ++ Step.below root _ :=
        fun heq => hother _ List.mem_cons_self (List.append_cancel_left heq).symm
      rw [ih (hdoes.grows.linkFree hlinks) (fun step hstep => hbelow step (List.mem_cons_of_mem _ hstep))
        (hdoes.grows.rootOf hroot) fun step hstep => hother step (List.mem_cons_of_mem _ hstep), hkept _ hne]

/-- A file that is kept where it was written reads as it was written. -/
theorem Does.contentAt? (hlinks : tree.LinkFree) (hbelow : (Step.file path content).IsBelow root)
    (hdoes : Does tree (.file path content) event later) (hgrows : tree.Grows latest)
    (hkept : ∀ base, tree.rootOf root = .ok base →
      latest.at? (base ++ (Step.file path content).below root) =
        later.at? (base ++ (Step.file path content).below root)) :
    latest.contentAt? path = some content := by
  obtain ⟨place, hplace, -, hentry, -⟩ := hdoes.puts hlinks hbelow
  obtain ⟨name, hends⟩ := Scaffold.IsBelow.endsIn hbelow
  obtain ⟨base, hbase, rfl⟩ := FileTree.place_eq_of_placeOf hbelow hplace
  have hread := (hkept base hbase).trans hentry
  cases hdoes with
  | @written path place content hwrites hwritable =>
      have hwhere := hwrites
      obtain ⟨parent, last, rfl, hresolve⟩ := hwhere
      have heq := Except.ok.inj (hplace.symm.trans (FileTree.placeOf_of_resolve hlinks hends hresolve))
      rw [heq] at hread
      rw [FileTree.contentAt?, (hwrites.mono hgrows).locate? (by rw [hread]; exact Option.some_ne_none _),
        Option.bind_some, hread]
      rfl

/-- After steps to different places every file reads as it was written. -/
theorem Performed.contentAt? (h : Performed steps events tree later) (hlinks : tree.LinkFree)
    (hbelow : ∀ step ∈ steps, step.IsBelow root)
    (hplaces : ∀ step ∈ steps, ∀ other ∈ steps, other.below root = step.below root → other = step)
    (hmem : .file path content ∈ steps) : later.contentAt? path = some content := by
  induction h with
  | nil => exact absurd hmem List.not_mem_nil
  | @cons step steps event events tree later latest hdoes hrest ih =>
      have hbelow' : ∀ step ∈ steps, step.IsBelow root := fun step hstep => hbelow step (List.mem_cons_of_mem _ hstep)
      have hlinks' := hdoes.grows.linkFree hlinks
      by_cases hlast : .file path content ∈ steps
      · exact ih hlinks' hbelow' (fun step hstep other hother =>
          hplaces step (List.mem_cons_of_mem _ hstep) other (List.mem_cons_of_mem _ hother)) hlast
      · -- The file is written here and by none of the steps that follow.
        obtain rfl := (List.mem_cons.mp hmem).resolve_right hlast
        refine hdoes.contentAt? hlinks (hbelow _ List.mem_cons_self) (hdoes.grows.trans hrest.grows)
          fun base hbase => ?_
        refine hrest.kept hlinks' hbelow' (hdoes.grows.rootOf hbase) fun other hother heq => hlast ?_
        rwa [← hplaces _ List.mem_cons_self other (List.mem_cons_of_mem _ hother) heq]

end Step

end Scaffold
