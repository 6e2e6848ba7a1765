import Mathlib.Data.List.Induction
import Scaffold.Proofs.FileTree.Inside

/-! Free names. The last name of a path is free if the names ahead of it lead to a directory, through links if
there are any, and nothing stands there at the name, not even a link. It is one that the system takes: neither the name
nor the path is longer than it allows. These are the names at which a directory can be made. -/

namespace Scaffold.FileTree

variable {tree : FileTree} {purpose : Purpose} {links : Nat} {here parent : Location} {names : List Text}
  {name path : Text} {slash slash' : Bool} {spot : Spot} {place : Location}

/-- The path ends in a free name, and this is its location. The limits of the system are part of this: the path has at
most 4095 bytes, none of them a NUL, and its names have at most 255. -/
structure IsFreeName (tree : FileTree) (path : Text) (place : Location) : Prop where
  isTaken : IsTaken path
  leads : ∃ front name directory, (Route.ofPath path).names = front ++ [name] ∧ IsLookedUp name ∧
    Leads tree .inspect mostLinks (Route.start (Route.ofPath path) tree.workingDirectory) front false directory ∧
    tree.at? directory.place = some .directory ∧ place = directory.place ++ [name]
  isFree : tree.at? place = none

/-! ### The last name of a way -/

/-- A name behind a way to a directory is a name in this directory, where something new may be made. -/
theorem Leads.concat (h : Leads tree .inspect links here names slash' spot)
    (hdirectory : tree.at? spot.place = some .directory) (hname : IsLookedUp name) (slash : Bool) :
    Leads tree .makeDirectory links here (names ++ [name]) slash (.name spot.place name slash) := by
  have hend : ∀ links here, Leads tree .makeDirectory links here [name] slash (.name here name slash) :=
    fun links here => .last hname nofun fun _ _ => rfl
  have hmore : ∀ rest : List Text, rest ++ [name] ≠ [] := by simp
  induction h with
  | stop => exact hend _ _
  | dot _ ih => exact .dot (ih hdirectory)
  | up _ ih => exact .up (ih hdirectory)
  | @last links here last slash' hlast _ _ =>
      have hentry : tree.at? (here ++ [last]) = some .directory := hdirectory
      exact .enter hlast (List.cons_ne_nil _ _) hentry (hend _ _)
  | enter hfirst _ hentry _ ih => exact .enter hfirst (hmore _) hentry (ih hdirectory)
  | @follow links here first target rest slash' spot hfirst _ _ hentry _ ih =>
      obtain ⟨hnames, hslash⟩ := followedBy_concat (Route.ofPath target) rest name slash
      rw [List.cons_append]
      refine .follow hfirst nofun (fun _ => hmore _) hentry ?_
      rw [hnames, hslash]
      exact ih hdirectory

/-- A way to a new name spells this name at its end. -/
theorem Leads.exists_front (h : Leads tree .makeDirectory links here names slash (.name parent name slash')) :
    (∃ front, names = front ++ [name]) ∧ IsLookedUp name := by
  generalize hspot : Spot.name parent name slash' = spot at h
  induction h with
  | stop => cases hspot
  | dot _ ih | up _ ih | enter _ _ _ _ ih =>
      obtain ⟨⟨front, rfl⟩, hname⟩ := ih hspot
      exact ⟨⟨_ :: front, rfl⟩, hname⟩
  | last hlast _ _ =>
      obtain ⟨rfl, rfl, rfl⟩ := Spot.name.inj hspot
      exact ⟨⟨[], rfl⟩, hlast⟩
  | @follow links here first target rest slash spot _ _ hrest _ _ ih =>
      obtain ⟨⟨front, hnames⟩, hname⟩ := ih hspot
      refine ⟨?_, hname⟩
      -- The last link is followed only if names come behind it, so the last of these is the last of all.
      obtain ⟨start, last, rfl⟩ : ∃ start last, rest = start ++ [last] :=
        ⟨_, _, (List.dropLast_concat_getLast (hrest rfl)).symm⟩
      have hlast : last = name := by
        rw [Route.followedBy, ← List.append_assoc] at hnames
        exact List.singleton_inj.mp (List.append_inj' hnames rfl).2
      exact ⟨first :: start, by rw [hlast, List.cons_append]⟩

/-! ### Free names and new directories -/

/-- A directory can be made exactly at a free name. -/
theorem isFreeName_iff (hclosed : tree.IsClosed) :
    tree.IsFreeName path place ↔ tree.Makes path place ∧ tree.at? place = none := by
  constructor
  · rintro ⟨htaken, ⟨front, name, directory, hnames, hname, hleads, hentry, rfl⟩, hfree⟩
    refine ⟨⟨directory.place, name, (Route.ofPath path).slash, rfl, resolve_eq_ok_iff.mpr ⟨htaken, ?_⟩⟩, hfree⟩
    rw [hnames]
    exact hleads.concat hentry hname _
  · rintro ⟨⟨parent, name, slash, rfl, hresolve⟩, hfree⟩
    obtain ⟨htaken, hleads⟩ := resolve_eq_ok_iff.mp hresolve
    obtain ⟨⟨front, hnames⟩, hname⟩ := hleads.exists_front
    rw [hnames] at hleads
    obtain ⟨inner, hinner, hentry, hspot⟩ := hleads.directory_of_concat hclosed ⟨hname.ne_dot, hname.ne_up⟩
      (at?_start hclosed.workingDirectory _) false
    obtain ⟨rfl, -, -⟩ := Spot.name.inj hspot
    exact ⟨htaken, ⟨front, name, inner, hnames, hname, hinner, hentry, rfl⟩, hfree⟩

/-- Nothing stands below a location where nothing stands. -/
theorem IsClosed.at?_append_eq_none (hclosed : tree.IsClosed) (hfree : tree.at? place = none) (rest : List Text) :
    tree.at? (place ++ rest) = none := by
  induction rest using List.reverseRecOn with
  | nil => rwa [List.append_nil]
  | append_singleton rest last ih =>
      refine Decidable.byContradiction fun hentry => ?_
      rw [← List.append_assoc] at hentry
      rw [hclosed.parent _ last hentry] at ih
      cases ih

end Scaffold.FileTree
