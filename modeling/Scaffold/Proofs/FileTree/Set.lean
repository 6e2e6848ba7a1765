import Scaffold.FileTree

/-! What stands in a tree after an entry is set. The entry stands at its location and all else is as it was.
Of entries that are set at one location only the last counts, and entries at different locations may be
set in any order once one of the locations is taken; hence setting a list of entries a second time changes
nothing. -/

namespace Scaffold.FileTree

variable {tree : FileTree} {place other : Location} {entry : Entry} {entries : List (Location × Entry)}

/-! ### One entry -/

theorem lookup_setEntry_self (place : Location) (entry : Entry) (entries : List (Location × Entry)) :
    (setEntry place entry entries).lookup place = some entry := by
  induction entries with
  | nil => rw [setEntry, List.lookup_cons_self]
  | cons head rest ih =>
      obtain ⟨p, e⟩ := head
      rw [setEntry]
      split
      · subst place
        exact List.lookup_cons_self
      · next h => rw [List.lookup_cons, beq_false_of_ne (Ne.symm h), ih]

theorem lookup_setEntry_of_ne (h : other ≠ place) (entry : Entry) (entries : List (Location × Entry)) :
    (setEntry place entry entries).lookup other = entries.lookup other := by
  induction entries with
  | nil => rw [setEntry, List.lookup_cons, beq_false_of_ne h]
  | cons head rest ih =>
      obtain ⟨p, e⟩ := head
      rw [setEntry]
      split
      · subst place
        rw [List.lookup_cons, List.lookup_cons, beq_false_of_ne h]
      · rw [List.lookup_cons, List.lookup_cons, ih]

theorem at?_set_self (tree : FileTree) (hplace : place ≠ []) (entry : Entry) :
    (tree.set place entry).at? place = some entry := by
  rw [at?, if_neg hplace]
  exact lookup_setEntry_self place entry tree.entries

theorem at?_set_of_ne (tree : FileTree) (h : other ≠ place) (entry : Entry) :
    (tree.set place entry).at? other = tree.at? other := by
  rw [at?, at?]
  split
  · rfl
  · exact lookup_setEntry_of_ne h entry tree.entries

/-! ### Setting the same entries again -/

theorem setEntry_setEntry (place : Location) (entry entry' : Entry) (entries : List (Location × Entry)) :
    setEntry place entry' (setEntry place entry entries) = setEntry place entry' entries := by
  induction entries with
  | nil => simp only [setEntry, if_pos]
  | cons head rest ih =>
      obtain ⟨p, e⟩ := head
      by_cases h : p = place
      · rw [setEntry, if_pos h, setEntry, if_pos h, setEntry, if_pos h]
      · rw [setEntry, if_neg h, setEntry, if_neg h, setEntry, if_neg h, ih]

theorem setEntry_comm (h : place ≠ other) (hplace : place ∈ entries.map Prod.fst) (entry entry' : Entry) :
    setEntry other entry' (setEntry place entry entries) =
      setEntry place entry (setEntry other entry' entries) := by
  induction entries with
  | nil => exact absurd hplace List.not_mem_nil
  | cons head rest ih =>
      obtain ⟨p, e⟩ := head
      by_cases hp : p = place
      · subst hp
        simp only [setEntry, if_pos, if_neg h]
      · by_cases hp' : p = other
        · subst hp'
          simp only [setEntry, if_pos, if_neg hp]
        · have hrest : place ∈ rest.map Prod.fst := by
            rcases List.mem_cons.mp hplace with heq | hmem
            · exact absurd heq.symm hp
            · exact hmem
          simp only [setEntry, if_neg hp, if_neg hp', ih hrest]

theorem setEntry_of_lookup (h : entries.lookup place = some entry) : setEntry place entry entries = entries := by
  induction entries with
  | nil => exact nomatch h
  | cons head rest ih =>
      obtain ⟨p, e⟩ := head
      rw [setEntry]
      by_cases hp : p = place
      · subst hp
        rw [List.lookup_cons_self] at h
        rw [if_pos rfl, Option.some.inj h]
      · rw [List.lookup_cons, beq_false_of_ne (Ne.symm hp)] at h
        rw [if_neg hp, ih h]

theorem mem_keys_setEntry (place : Location) (entry : Entry) (entries : List (Location × Entry)) :
    place ∈ (setEntry place entry entries).map Prod.fst := by
  induction entries with
  | nil => exact List.mem_singleton_self place
  | cons head rest ih =>
      obtain ⟨p, e⟩ := head
      rw [setEntry]
      split
      · subst place
        exact List.mem_cons_self
      · exact List.mem_cons_of_mem p ih

theorem mem_keys_setEntry_of_mem (h : other ∈ entries.map Prod.fst) (place : Location) (entry : Entry) :
    other ∈ (setEntry place entry entries).map Prod.fst := by
  induction entries with
  | nil => exact absurd h List.not_mem_nil
  | cons head rest ih =>
      obtain ⟨p, e⟩ := head
      rw [setEntry]
      split
      · exact h
      · rcases List.mem_cons.mp h with rfl | hmem
        · exact List.mem_cons_self
        · exact List.mem_cons_of_mem p (ih hmem)

/-- The tree with entries set in order. -/
def setAll (tree : FileTree) (entries : List (Location × Entry)) : FileTree :=
  entries.foldl (fun tree (place, entry) => tree.set place entry) tree

/-- The location is listed in the tree. -/
def Lists (tree : FileTree) (place : Location) : Prop := place ∈ tree.entries.map Prod.fst

theorem set_set (tree : FileTree) (place : Location) (entry entry' : Entry) :
    (tree.set place entry).set place entry' = tree.set place entry' := by
  rw [set, set, set, setEntry_setEntry]

theorem set_comm (h : place ≠ other) (hplace : tree.Lists place) (entry entry' : Entry) :
    (tree.set place entry).set other entry' = (tree.set other entry').set place entry := by
  rw [set, set, set, set, setEntry_comm h hplace]

theorem set_of_at? (hplace : place ≠ []) (h : tree.at? place = some entry) : tree.set place entry = tree := by
  rw [at?, if_neg hplace] at h
  rw [set, setEntry_of_lookup h]

theorem lists_set (tree : FileTree) (place : Location) (entry : Entry) : (tree.set place entry).Lists place :=
  mem_keys_setEntry place entry tree.entries

theorem Lists.set (h : tree.Lists other) (place : Location) (entry : Entry) :
    (tree.set place entry).Lists other :=
  mem_keys_setEntry_of_mem h place entry

theorem setAll_append (tree : FileTree) (first second : List (Location × Entry)) :
    tree.setAll (first ++ second) = (tree.setAll first).setAll second := List.foldl_append

theorem Lists.setAll (h : tree.Lists other) (entries : List (Location × Entry)) :
    (tree.setAll entries).Lists other := by
  induction entries generalizing tree with
  | nil => exact h
  | cons head rest ih => exact ih (h.set head.1 head.2)

/-- What is set at a location is lost if a later entry is set there. -/
theorem setAll_set_of_mem (hlists : tree.Lists place) (h : place ∈ entries.map Prod.fst) (entry : Entry) :
    (tree.set place entry).setAll entries = tree.setAll entries := by
  induction entries generalizing tree with
  | nil => exact absurd h List.not_mem_nil
  | cons head rest ih =>
      obtain ⟨p, e⟩ := head
      by_cases hp : place = p
      · subst hp
        exact congrArg (·.setAll rest) (set_set tree place entry e)
      · have hrest : place ∈ rest.map Prod.fst := (List.mem_cons.mp h).resolve_left hp
        calc (tree.set place entry).setAll ((p, e) :: rest)
            = ((tree.set place entry).set p e).setAll rest := rfl
          _ = ((tree.set p e).set place entry).setAll rest := by rw [set_comm hp hlists]
          _ = (tree.set p e).setAll rest := ih (hlists.set p e) hrest

/-- An entry that no later one replaces may as well be set last. -/
theorem setAll_set_of_notMem (hlists : tree.Lists place) (h : place ∉ entries.map Prod.fst) (entry : Entry) :
    (tree.set place entry).setAll entries = (tree.setAll entries).set place entry := by
  induction entries generalizing tree with
  | nil => rfl
  | cons head rest ih =>
      obtain ⟨p, e⟩ := head
      rw [List.map_cons, List.mem_cons, not_or] at h
      calc (tree.set place entry).setAll ((p, e) :: rest)
          = ((tree.set place entry).set p e).setAll rest := rfl
        _ = ((tree.set p e).set place entry).setAll rest := by rw [set_comm h.1 hlists]
        _ = ((tree.set p e).setAll rest).set place entry := ih (hlists.set p e) h.2

/-- Entries that were set once are as they were after they are set again. -/
theorem setAll_setAll (tree : FileTree) (entries : List (Location × Entry)) :
    (tree.setAll entries).setAll entries = tree.setAll entries := by
  induction entries generalizing tree with
  | nil => rfl
  | cons head rest ih =>
      obtain ⟨p, e⟩ := head
      have hlists : (tree.set p e).Lists p := lists_set tree p e
      have hset : (((tree.set p e).setAll rest).set p e).setAll rest = ((tree.set p e).setAll rest).setAll rest := by
        by_cases hp : p ∈ rest.map Prod.fst
        · exact setAll_set_of_mem (hlists.setAll rest) hp e
        · rw [← setAll_set_of_notMem hlists hp e, set_set]
      exact hset.trans (ih (tree.set p e))

end Scaffold.FileTree
