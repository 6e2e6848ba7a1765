import Scaffold.FileTree.Change
import Scaffold.Proofs.FileTree.Set

/-! Where a path leads, as a relation. A path leads on from directory to directory, one name after the
other, and from a link to where the link leads, which uses up one of the links that may be followed.
Resolving finds a spot exactly if the path leads there; what is said of paths that lead somewhere is shown by
induction on the way. -/

namespace Scaffold

/-- The place from which the names of a way are followed. -/
def Route.start (route : Route) (here : Location) : Location := if route.absolute then [] else here

namespace FileTree

/-- A name that is looked up: no dot, no step back and not too long. -/
structure IsLookedUp (name : Text) : Prop where
  ne_dot : name ≠ ("." : Text)
  ne_up : name ≠ (".." : Text)
  length_le : Text.byteLength name ≤ longestName

/-- The names lead from a directory to a spot, through no more than the given number of links. -/
inductive Leads (tree : FileTree) (purpose : Purpose) : Nat → Location → List Text → Bool → Spot → Prop
  | stop {links : Nat} {here : Location} {slash : Bool} : Leads tree purpose links here [] slash (.directory here)
  | dot {links : Nat} {here : Location} {rest : List Text} {slash : Bool} {spot : Spot}
      (h : Leads tree purpose links here rest slash spot) :
      Leads tree purpose links here (("." : Text) :: rest) slash spot
  | up {links : Nat} {here : Location} {rest : List Text} {slash : Bool} {spot : Spot}
      (h : Leads tree purpose links here.dropLast rest slash spot) :
      Leads tree purpose links here ((".." : Text) :: rest) slash spot
  | last {links : Nat} {here : Location} {name : Text} {slash : Bool} (hname : IsLookedUp name)
      (hslash : purpose = .writeFile → slash = false)
      (hlink : ∀ target, tree.at? (here ++ [name]) = some (.link target) → purpose = .makeDirectory) :
      Leads tree purpose links here [name] slash (.name here name slash)
  | enter {links : Nat} {here : Location} {name : Text} {rest : List Text} {slash : Bool} {spot : Spot}
      (hname : IsLookedUp name) (hrest : rest ≠ []) (hentry : tree.at? (here ++ [name]) = some .directory)
      (h : Leads tree purpose links (here ++ [name]) rest slash spot) :
      Leads tree purpose links here (name :: rest) slash spot
  | follow {links : Nat} {here : Location} {name target : Text} {rest : List Text} {slash : Bool} {spot : Spot}
      (hname : IsLookedUp name) (hslash : purpose = .writeFile → rest = [] → slash = false)
      (hpurpose : purpose = .makeDirectory → rest ≠ [])
      (hentry : tree.at? (here ++ [name]) = some (.link target))
      (h : Leads tree purpose links (Route.start (Route.ofPath target) here)
        ((Route.ofPath target).followedBy rest slash).names ((Route.ofPath target).followedBy rest slash).slash
        spot) :
      Leads tree purpose (links + 1) here (name :: rest) slash spot

variable {tree : FileTree} {purpose : Purpose} {links : Nat} {here : Location} {name : Text} {rest : List Text}
  {slash : Bool} {spot : Spot}

/-! ### One name -/

variable {follow : Location → Route → Except Fault Spot}

theorem walk_dot (here : Location) (rest : List Text) :
    tree.walk purpose follow here (("." : Text) :: rest) slash = tree.walk purpose follow here rest slash := by
  rw [walk, if_pos rfl]

theorem walk_up (here : Location) (rest : List Text) :
    tree.walk purpose follow here ((".." : Text) :: rest) slash =
      tree.walk purpose follow here.dropLast rest slash := by
  rw [walk, if_neg (by decide), if_pos rfl]

/-- A name is looked up if a way through it leads anywhere. -/
theorem isLookedUp_of_walk (hdot : name ≠ ("." : Text)) (hup : name ≠ (".." : Text))
    (h : tree.walk purpose follow here (name :: rest) slash = .ok spot) :
    IsLookedUp name ∧ (purpose = .writeFile → rest = [] → slash = false) := by
  rw [walk, if_neg hdot, if_neg hup] at h
  split at h
  · exact nomatch h
  next hwrite =>
    split at h
    · exact nomatch h
    next hlength =>
      refine ⟨⟨hdot, hup, Nat.le_of_not_lt hlength⟩, ?_⟩
      rintro rfl rfl
      cases slash with
      | false => rfl
      | true => exact absurd rfl hwrite

theorem not_refused (hslash : purpose = .writeFile → rest = [] → slash = false) :
    ¬(purpose = .writeFile && rest.isEmpty && slash) = true := by
  rw [Bool.and_eq_true, Bool.and_eq_true, decide_eq_true_eq, List.isEmpty_iff]
  rintro ⟨⟨hpurpose, hrest⟩, htrue⟩
  rw [hslash hpurpose hrest] at htrue
  exact nomatch htrue

theorem walk_of_link {target : Text} (hname : IsLookedUp name)
    (hslash : purpose = .writeFile → rest = [] → slash = false)
    (hentry : tree.at? (here ++ [name]) = some (.link target)) :
    tree.walk purpose follow here (name :: rest) slash =
      if purpose = .makeDirectory && rest.isEmpty then .ok (.name here name slash)
      else follow here ((Route.ofPath target).followedBy rest slash) := by
  rw [walk, if_neg hname.ne_dot, if_neg hname.ne_up, if_neg (not_refused hslash),
    if_neg (Nat.not_lt.mpr hname.length_le)]
  simp only [hentry]

theorem walk_last (hname : IsLookedUp name) (hslash : purpose = .writeFile → slash = false)
    (hentry : ∀ target, tree.at? (here ++ [name]) ≠ some (.link target)) :
    tree.walk purpose follow here [name] slash = .ok (.name here name slash) := by
  rw [walk, if_neg hname.ne_dot, if_neg hname.ne_up, if_neg (not_refused fun hpurpose _ => hslash hpurpose),
    if_neg (Nat.not_lt.mpr hname.length_le)]
  split
  · next target h => exact absurd h (hentry target)
  · rfl

theorem walk_of_not_link (hname : IsLookedUp name) (hrest : rest ≠ [])
    (hentry : ∀ target, tree.at? (here ++ [name]) ≠ some (.link target)) :
    tree.walk purpose follow here (name :: rest) slash =
      match tree.at? (here ++ [name]) with
      | some .directory => tree.walk purpose follow (here ++ [name]) rest slash
      | none => .error .notFound
      | some _ => .error .notDirectory := by
  rw [walk, if_neg hname.ne_dot, if_neg hname.ne_up, if_neg (not_refused fun _ h => absurd h hrest),
    if_neg (Nat.not_lt.mpr hname.length_le)]
  split
  · next target h => exact absurd h (hentry target)
  · have hmore : ¬rest.isEmpty = true := by rwa [List.isEmpty_iff]
    refine (if_neg hmore).trans ?_
    cases tree.at? (here ++ [name]) with
    | none => rfl
    | some entry => cases entry <;> rfl

/-! ### Resolving and leading -/

/-- What is done with a link while so many may still be followed. -/
def pursue (tree : FileTree) (purpose : Purpose) : Nat → Location → Route → Except Fault Spot
  | 0 => fun _ _ => .error .tooManyLinks
  | links + 1 => tree.travel purpose links

theorem travel_eq_walk (tree : FileTree) (purpose : Purpose) (links : Nat) (here : Location) (route : Route) :
    tree.travel purpose links here route =
      tree.walk purpose (tree.pursue purpose links) (Route.start route here) route.names route.slash := by
  cases links with
  | zero => rfl
  | succ links => rfl

/-- If links are only followed to where they lead, names are only followed to where they lead. -/
theorem leads_of_walk (hfollow : ∀ here route, tree.pursue purpose links here route = .ok spot →
      ∃ fewer, links = fewer + 1 ∧ Leads tree purpose fewer (Route.start route here) route.names route.slash spot)
    {names : List Text} (h : tree.walk purpose (tree.pursue purpose links) here names slash = .ok spot) :
    Leads tree purpose links here names slash spot := by
  induction names generalizing here with
  | nil =>
      obtain rfl := Except.ok.inj h
      exact .stop
  | cons name rest ih =>
      by_cases hdot : name = ("." : Text)
      · subst hdot
        rw [walk_dot] at h
        exact .dot (ih h)
      by_cases hup : name = (".." : Text)
      · subst hup
        rw [walk_up] at h
        exact .up (ih h)
      obtain ⟨hname, hslash⟩ := isLookedUp_of_walk hdot hup h
      by_cases hlink : ∃ target, tree.at? (here ++ [name]) = some (.link target)
      · obtain ⟨target, hentry⟩ := hlink
        rw [walk_of_link hname hslash hentry] at h
        split at h
        · next hmake =>
            rw [Bool.and_eq_true, decide_eq_true_eq, List.isEmpty_iff] at hmake
            obtain ⟨rfl, rfl⟩ := hmake
            obtain rfl := Except.ok.inj h
            exact .last hname (fun hpurpose => nomatch hpurpose) fun _ _ => rfl
        · next hmake =>
            rw [Bool.and_eq_true, decide_eq_true_eq, List.isEmpty_iff, not_and] at hmake
            obtain ⟨fewer, rfl, hleads⟩ := hfollow _ _ h
            exact .follow hname hslash hmake hentry hleads
      · rw [not_exists] at hlink
        cases rest with
        | nil =>
            rw [walk_last hname (fun hpurpose => hslash hpurpose rfl) hlink] at h
            obtain rfl := Except.ok.inj h
            exact .last hname (fun hpurpose => hslash hpurpose rfl) fun target htarget => absurd htarget (hlink target)
        | cons next rest =>
            rw [walk_of_not_link hname (List.cons_ne_nil _ _) hlink] at h
            split at h
            · next hentry => exact .enter hname (List.cons_ne_nil _ _) hentry (ih h)
            · exact nomatch h
            · exact nomatch h

theorem Leads.walk {names : List Text} (h : Leads tree purpose links here names slash spot) :
    tree.walk purpose (tree.pursue purpose links) here names slash = .ok spot := by
  induction h with
  | stop => rfl
  | dot _ ih => rw [walk_dot, ih]
  | up _ ih => rw [walk_up, ih]
  | @last links here name slash hname hslash hlink =>
      by_cases hentry : ∃ target, tree.at? (here ++ [name]) = some (.link target)
      · obtain ⟨target, hentry⟩ := hentry
        obtain rfl := hlink target hentry
        rw [walk_of_link hname (fun hpurpose _ => hslash hpurpose) hentry]
        rfl
      · exact walk_last hname hslash (not_exists.mp hentry)
  | enter hname hrest hentry _ ih =>
      rw [walk_of_not_link hname hrest (fun target => by rw [hentry]; exact fun h => nomatch h)]
      simp only [hentry, ih]
  | follow hname hslash hpurpose hentry _ ih =>
      rw [walk_of_link hname hslash hentry, if_neg (by
        rw [Bool.and_eq_true, decide_eq_true_eq, List.isEmpty_iff, not_and]
        exact hpurpose)]
      exact (travel_eq_walk _ _ _ _ _).trans ih

theorem travel_eq_ok_iff {route : Route} : tree.travel purpose links here route = .ok spot ↔
    Leads tree purpose links (Route.start route here) route.names route.slash spot := by
  constructor
  · intro h
    induction links generalizing here route with
    | zero =>
        rw [travel_eq_walk] at h
        refine leads_of_walk (fun here route hfollow => ?_) h
        rw [pursue] at hfollow
        exact nomatch hfollow
    | succ links ih =>
        rw [travel_eq_walk] at h
        exact leads_of_walk (fun _ _ h => ⟨links, rfl, ih h⟩) h
  · intro h
    rw [travel_eq_walk]
    exact h.walk

/-- A path the system takes: not empty, not too long and without a NUL. -/
structure IsTaken (path : Text) : Prop where
  nul_notMem : '\x00' ∉ path
  ne_nil : path ≠ []
  length_le : Text.byteLength path ≤ longestPath

theorem resolve_eq_ok_iff {path : Text} : tree.resolve purpose path = .ok spot ↔
    IsTaken path ∧ Leads tree purpose mostLinks (Route.start (Route.ofPath path) tree.workingDirectory)
      (Route.ofPath path).names (Route.ofPath path).slash spot := by
  rw [resolve]
  constructor
  · intro h
    split at h
    · exact nomatch h
    next hnul =>
      split at h
      · exact nomatch h
      next hnil =>
        split at h
        · exact nomatch h
        next hlength => exact ⟨⟨hnul, hnil, Nat.le_of_not_lt hlength⟩, travel_eq_ok_iff.mp h⟩
  · rintro ⟨htaken, h⟩
    rw [if_neg htaken.nul_notMem, if_neg htaken.ne_nil, if_neg (Nat.not_lt.mpr htaken.length_le)]
    exact travel_eq_ok_iff.mpr h

/-! ### Ways for different purposes -/

variable {names : List Text}

theorem Leads.writeFile_last {parent : Location} {name : Text} {slash' : Bool}
    (h : Leads tree .writeFile links here names slash (.name parent name slash')) :
    slash' = false ∧ ∀ target, tree.at? (parent ++ [name]) ≠ some (.link target) := by
  generalize hspot : Spot.name parent name slash' = spot at h
  induction h with
  | stop => exact nomatch hspot
  | dot _ ih | up _ ih | enter _ _ _ _ ih | follow _ _ _ _ _ ih => exact ih hspot
  | last hname hslash hlink =>
      obtain ⟨rfl, rfl, rfl⟩ := Spot.name.inj hspot
      exact ⟨hslash rfl, fun target htarget => nomatch hlink target htarget⟩

/-- A way for a file to write can be looked along. -/
theorem Leads.inspect_of_writeFile (h : Leads tree .writeFile links here names slash spot) :
    Leads tree .inspect links here names slash spot := by
  induction h with
  | stop => exact .stop
  | dot _ ih => exact .dot ih
  | up _ ih => exact .up ih
  | last hname _ hlink =>
      exact .last hname (fun h => nomatch h) fun target htarget => nomatch hlink target htarget
  | enter hname hrest hentry _ ih => exact .enter hname hrest hentry ih
  | follow hname _ _ hentry _ ih => exact .follow hname (fun h => nomatch h) (fun h => nomatch h) hentry ih

/-- A way to the name of a new directory can be looked along if no link stands there. -/
theorem Leads.inspect_of_makeDirectory (h : Leads tree .makeDirectory links here names slash spot)
    (hlink : ∀ parent name slash', spot = .name parent name slash' →
      ∀ target, tree.at? (parent ++ [name]) ≠ some (.link target)) :
    Leads tree .inspect links here names slash spot := by
  induction h with
  | stop => exact .stop
  | dot _ ih => exact .dot (ih hlink)
  | up _ ih => exact .up (ih hlink)
  | last hname _ _ =>
      exact .last hname (fun h => nomatch h) fun target htarget => absurd htarget (hlink _ _ _ rfl target)
  | enter hname hrest hentry _ ih => exact .enter hname hrest hentry (ih hlink)
  | follow hname _ _ hentry _ ih =>
      exact .follow hname (fun h => nomatch h) (fun h => nomatch h) hentry (ih hlink)

/-- What can be looked at is no place for a new directory: the way of the new name goes the same way, but for
a link at its end, which it does not follow. -/
theorem Leads.makeDirectory_of_inspect (h : Leads tree .inspect links here names slash spot) :
    ∃ spot', Leads tree .makeDirectory links here names slash spot' ∧
      (spot' = spot ∨ ∃ parent name slash' target, spot' = .name parent name slash' ∧
        tree.at? (parent ++ [name]) = some (.link target)) := by
  induction h with
  | stop => exact ⟨_, .stop, Or.inl rfl⟩
  | dot _ ih =>
      obtain ⟨spot', hleads, hspot⟩ := ih
      exact ⟨spot', .dot hleads, hspot⟩
  | up _ ih =>
      obtain ⟨spot', hleads, hspot⟩ := ih
      exact ⟨spot', .up hleads, hspot⟩
  | last hname _ _ => exact ⟨_, .last hname (fun h => nomatch h) fun _ _ => rfl, Or.inl rfl⟩
  | enter hname hrest hentry _ ih =>
      obtain ⟨spot', hleads, hspot⟩ := ih
      exact ⟨spot', .enter hname hrest hentry hleads, hspot⟩
  | @follow links here name target rest slash spot hname _ _ hentry _ ih =>
      by_cases hrest : rest = []
      · subst hrest
        exact ⟨_, .last hname (fun h => nomatch h) fun _ _ => rfl, Or.inr ⟨here, name, slash, target, rfl, hentry⟩⟩
      · obtain ⟨spot', hleads, hspot⟩ := ih
        exact ⟨spot', .follow hname (fun h => nomatch h) (fun _ => hrest) hentry hleads, hspot⟩

end FileTree

end Scaffold
