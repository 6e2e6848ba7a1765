import Scaffold.Proofs.FileTree.Leads

/-! Trees that grow. A run puts files and directories where nothing was and contents where files were; what
is a directory, a link or a running program stays so. Whatever a path leads to before such changes it leads
to after them: the way went through directories and links only, and these have stayed. -/

namespace Scaffold

/-- What can become of a location while a tree grows. -/
inductive Grown : Option Entry → Option Entry → Prop
  | same (found : Option Entry) : Grown found found
  | rewritten (old new : Text) : Grown (some (.file old)) (some (.file new))
  | newFile (content : Text) : Grown none (some (.file content))
  | newDirectory : Grown none (some .directory)

namespace Grown

variable {first second third : Option Entry}

theorem trans (h : Grown first second) (h' : Grown second third) : Grown first third := by
  cases h with
  | same => exact h'
  | rewritten old new =>
      cases h' with
      | same => exact .rewritten old new
      | rewritten _ newest => exact .rewritten old newest
  | newFile content =>
      cases h' with
      | same => exact .newFile content
      | rewritten _ newest => exact .newFile newest
  | newDirectory =>
      cases h' with
      | same => exact .newDirectory

/-- What is no file stays as it is. -/
theorem stays {entry : Entry} (h : Grown (some entry) second) (hfile : ∀ content, entry ≠ .file content) :
    second = some entry := by
  cases h with
  | same => rfl
  | rewritten old new => exact absurd rfl (hfile old)

theorem directory (h : Grown (some .directory) second) : second = some .directory := h.stays (by simp)

theorem link {target : Text} (h : Grown (some (.link target)) second) : second = some (.link target) :=
  h.stays (by simp)

theorem program (h : Grown (some .program) second) : second = some .program := h.stays (by simp)

/-- What is neither a file nor a directory was there before. -/
theorem stayed {entry : Entry} (h : Grown first (some entry)) (hfile : ∀ content, entry ≠ .file content)
    (hdirectory : entry ≠ .directory) : first = some entry := by
  cases h with
  | same => rfl
  | rewritten old new => exact absurd rfl (hfile new)
  | newFile content => exact absurd rfl (hfile content)
  | newDirectory => exact absurd rfl hdirectory

theorem of_link {target : Text} (h : Grown first (some (.link target))) : first = some (.link target) :=
  h.stayed (by simp) (by simp)

theorem of_program (h : Grown first (some .program)) : first = some .program := h.stayed (by simp) (by simp)

theorem exists_of_some {entry : Entry} (h : Grown (some entry) second) :
    ∃ entry', second = some entry' ∧ (entry = .directory → entry' = .directory) := by
  cases h with
  | same => exact ⟨entry, rfl, id⟩
  | rewritten old new => exact ⟨.file new, rfl, fun h => nomatch h⟩

theorem same_or_rewritten {entry : Entry} (h : Grown (some entry) second) :
    second = some entry ∨ ∃ old new, entry = .file old ∧ second = some (.file new) := by
  cases h with
  | same => exact Or.inl rfl
  | rewritten old new => exact Or.inr ⟨old, new, rfl, rfl⟩

theorem directory_or_file {entry : Entry} (h : Grown none (some entry)) :
    entry = .directory ∨ ∃ content, entry = .file content := by
  cases h with
  | newFile content => exact Or.inr ⟨content, rfl⟩
  | newDirectory => exact Or.inl rfl

theorem of_none (h : Grown first none) : first = none := by
  cases h with
  | same => rfl

theorem file {content : Text} (h : Grown (some (.file content)) second) : ∃ new, second = some (.file new) := by
  cases h with
  | same => exact ⟨content, rfl⟩
  | rewritten _ new => exact ⟨new, rfl⟩

end Grown

namespace FileTree

/-- The other tree is this one after further files and directories were made and files rewritten. -/
structure Grows (tree later : FileTree) : Prop where
  workingDirectory_eq : later.workingDirectory = tree.workingDirectory
  grown : ∀ place, Grown (tree.at? place) (later.at? place)

variable {tree later latest : FileTree}

theorem Grows.refl (tree : FileTree) : tree.Grows tree := ⟨rfl, fun _ => .same _⟩

theorem Grows.trans (h : tree.Grows later) (h' : later.Grows latest) : tree.Grows latest :=
  ⟨h'.workingDirectory_eq.trans h.workingDirectory_eq, fun place => (h.grown place).trans (h'.grown place)⟩

theorem grows_set {place : Location} {entry : Entry} (h : Grown (tree.at? place) (some entry)) :
    tree.Grows (tree.set place entry) := by
  refine ⟨rfl, fun other => ?_⟩
  by_cases hother : other = place
  · subst hother
    by_cases hroot : other = []
    · subst hroot
      exact .same _
    · rw [at?_set_self tree hroot]
      exact h
  · rw [at?_set_of_ne tree hother]
    exact .same _

/-! ### Where paths lead -/

variable {purpose : Purpose} {links : Nat} {here : Location} {names : List Text} {slash : Bool} {spot : Spot}

theorem Leads.mono (hgrows : tree.Grows later) (h : Leads tree purpose links here names slash spot) :
    Leads later purpose links here names slash spot := by
  have hgrown := hgrows.grown
  induction h with
  | stop => exact .stop
  | dot _ ih => exact .dot ih
  | up _ ih => exact .up ih
  | last hname hslash hlink =>
      exact .last hname hslash fun target htarget => hlink target (Grown.of_link (htarget ▸ hgrown _))
  | enter hname hrest hentry _ ih => exact .enter hname hrest (Grown.directory (hentry ▸ hgrown _)) ih
  | follow hname hslash hpurpose hentry _ ih =>
      exact .follow hname hslash hpurpose (Grown.link (hentry ▸ hgrown _)) ih

/-- What a path leads to it leads to in every tree that this one grows into. -/
theorem Grows.resolve {path : Text} (hgrows : tree.Grows later) (h : tree.resolve purpose path = .ok spot) :
    later.resolve purpose path = .ok spot := by
  rw [resolve_eq_ok_iff] at h ⊢
  rw [hgrows.workingDirectory_eq]
  exact ⟨h.1, h.2.mono hgrows⟩

end FileTree

end Scaffold
