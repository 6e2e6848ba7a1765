import Scaffold.Proofs.Call

/-! Runs that share a tree, action by action. Making sure of a directory takes an attempt to make it and, if
something is there already, a look at what it is; between the two other runs may act. A schedule tells whose turn
it is; a run that is over lets its turns pass. A run that is left alone comes to what its call comes to. -/

namespace Scaffold

/-- How far a run has come: the files it wrote and the steps ahead of it. -/
inductive Stage where
  | ready (written : List Text) (ahead : List Step)
  /-- Something is there where the directory was to be made; it is looked at next. -/
  | looking (path : Text) (written : List Text) (ahead : List Step)
  | failed (error : Error)

namespace Stage

/-- One action of a run. -/
def act : Stage → FileTree → Stage × FileTree
  | .ready written (.directory path :: ahead), tree =>
    match tree.createDirectory path with
    | .ok later => (.ready written ahead, later)
    | .error fault =>
      if fault = .fileExists then (.looking path written ahead, tree) else (.failed (.write path fault), tree)
  | .ready written (.file path content :: ahead), tree =>
    match tree.writeFile path content with
    | .ok later => (.ready (written ++ [path]) ahead, later)
    | .error fault => (.failed (.write path fault), tree)
  | .looking path written ahead, tree =>
    if tree.isDirectory path then (.ready written ahead, tree)
    else (.failed (.write path .fileExists), tree)
  | .ready written [], tree => (.ready written [], tree)
  | .failed error, tree => (.failed error, tree)

/-- What a run that is over gave. -/
def result? : Stage → Option (Except Error (List Text))
  | .ready written [] => some (.ok written)
  | .failed error => some (.error error)
  | _ => none

/-- The most actions that steps take. -/
def actions : List Step → Nat
  | [] => 0
  | .directory _ :: steps => actions steps + 2
  | .file _ _ :: steps => actions steps + 1

/-- The most actions ahead of a run. -/
def pending : Stage → Nat
  | .ready _ ahead => actions ahead
  | .looking _ _ ahead => actions ahead + 1
  | .failed _ => 0

/-- What a run gives that is left alone from here on, and the tree it leaves. -/
def finish : Stage → FileTree → Except Error (List Text) × FileTree
  | .ready written ahead, tree =>
    ((Step.performAll ahead tree).result.map (written ++ ·), (Step.performAll ahead tree).tree)
  | .looking path written ahead, tree =>
    if tree.isDirectory path then
      ((Step.performAll ahead tree).result.map (written ++ ·), (Step.performAll ahead tree).tree)
    else (.error (.write path .fileExists), tree)
  | .failed error, tree => (.error error, tree)

theorem pending_act (stage : Stage) (tree : FileTree) :
    (stage.act tree).1.pending ≤ stage.pending - 1 := by
  cases stage with
  | ready written ahead =>
      cases ahead with
      | nil => exact Nat.le_refl _
      | cons step ahead =>
          cases step with
          | directory path =>
              rw [act]
              split
              · simp only [pending, actions]; omega
              · split
                · simp only [pending, actions]; omega
                · exact Nat.zero_le _
          | file path content =>
              rw [act]
              split
              · simp only [pending, actions]; omega
              · exact Nat.zero_le _
  | looking path written ahead =>
      rw [act]
      split
      · simp only [pending]; omega
      · exact Nat.zero_le _
  | failed error => exact Nat.zero_le _

theorem result?_of_pending {stage : Stage} (h : stage.pending = 0) (tree : FileTree) :
    stage.result? = some (stage.finish tree).1 ∧ (stage.finish tree).2 = tree := by
  cases stage with
  | ready written ahead =>
      cases ahead with
      | nil => simp [result?, finish, Step.performAll, Except.map]
      | cons step ahead => cases step <;> simp [pending, actions] at h
  | looking path written ahead => exact absurd h (Nat.succ_ne_zero _)
  | failed error => exact ⟨rfl, rfl⟩

/-- An action is a part of what a run does that is left alone. -/
theorem finish_act (stage : Stage) (tree : FileTree) :
    (stage.act tree).1.finish (stage.act tree).2 = stage.finish tree := by
  have hmap : ∀ (written more : List Text) (result : Except Error (List Text)),
      (result.map (more ++ ·)).map (written ++ ·) = result.map ((written ++ more) ++ ·) := by
    intro written more result
    cases result with
    | error error => rfl
    | ok texts => simp [Except.map]
  cases stage with
  | ready written ahead =>
      cases ahead with
      | nil => rfl
      | cons step ahead =>
          cases step with
          | directory path =>
              rw [act, finish, Step.performAll, Step.perform]
              cases hcreate : tree.createDirectory path with
              | ok later => simp only [finish, Outcome.behind, Outcome.map, Step.written, hmap, List.append_nil]
              | error fault =>
                  by_cases hexists : fault = .fileExists
                  · by_cases hfound : tree.isDirectory path = true
                    · simp only [finish, hexists, hfound, Outcome.behind, Outcome.map, Step.written, hmap,
                        List.append_nil, decide_true, Bool.and_self, if_true]
                    · simp [finish, hexists, hfound, Except.map]
                  · simp [finish, hexists, Except.map]
          | file path content =>
              rw [act, finish, Step.performAll, Step.perform]
              cases tree.writeFile path content with
              | ok later => simp only [finish, Outcome.behind, Outcome.map, Step.written, hmap]
              | error fault => simp [finish, Except.map]
  | looking path written ahead =>
      rw [act, finish]
      split
      · rfl
      · rfl
  | failed error => rfl

/-- As many actions of one run in a row. -/
def acts : Nat → Stage → FileTree → Stage × FileTree
  | 0, stage, tree => (stage, tree)
  | count + 1, stage, tree => acts count (stage.act tree).1 (stage.act tree).2

theorem acts_eq_finish {count : Nat} {stage : Stage} (h : stage.pending ≤ count) (tree : FileTree) :
    (acts count stage tree).1.result? = some (stage.finish tree).1 ∧
    (acts count stage tree).2 = (stage.finish tree).2 := by
  induction count generalizing stage tree with
  | zero =>
      obtain ⟨hresult, htree⟩ := result?_of_pending (Nat.le_zero.mp h) tree
      exact ⟨hresult, htree.symm⟩
  | succ count ih =>
      have hpending := pending_act stage tree
      have hrest := ih (show (stage.act tree).1.pending ≤ count by omega) (stage.act tree).2
      rw [finish_act] at hrest
      exact hrest

end Stage

namespace Call

variable (render : Renderer) (profile : Profile) (layout : Layout)

/-- Where a call starts: planning is done, which touches no file. -/
def start (call : Call) : Stage :=
  match (call.plan render profile).result with
  | .error error => .failed error
  | .ok artifacts => .ready [] (call.steps profile layout artifacts)

theorem finish_start (call : Call) (tree : FileTree) : (call.start render profile layout).finish tree =
    ((call.run render profile layout tree).result, (call.run render profile layout tree).tree) := by
  rw [run_eq, start, Told.change]
  cases (call.plan render profile).result with
  | error error => rfl
  | ok artifacts =>
      rw [Stage.finish]
      cases h : (Step.performAll (call.steps profile layout artifacts) tree).result <;>
        simp [Outcome.behind, h, Except.map]

/-- A class takes five writes; a test takes three, after its directory is made sure of. -/
theorem pending_start (call : Call) : (call.start render profile layout).pending ≤ 5 := by
  rw [start]
  split
  · exact Nat.zero_le _
  next artifacts hplan =>
    obtain ⟨-, content, rfl⟩ := planned_of_plan hplan
    cases call with
    | newClass => exact Nat.le_refl 5
    | newTest => exact Nat.le_refl 5

end Call

/-- Runs that share a tree. -/
structure Session (n : Nat) where
  tree : FileTree
  runs : Fin n → Stage

namespace Session

variable {n : Nat}

/-- One action of one of the runs. -/
def turn (session : Session n) (i : Fin n) : Session n where
  tree := ((session.runs i).act session.tree).2
  runs := fun j => if j = i then ((session.runs i).act session.tree).1 else session.runs j

/-- Actions of the runs in the order of a schedule. -/
def play (session : Session n) : List (Fin n) → Session n
  | [] => session
  | i :: schedule => (session.turn i).play schedule

/-- The calls as they start in a tree. -/
def start (render : Renderer) (profile : Profile) (layout : Layout) (calls : Fin n → Call) (tree : FileTree) :
    Session n := ⟨tree, fun i => (calls i).start render profile layout⟩

theorem play_append (session : Session n) (first second : List (Fin n)) :
    session.play (first ++ second) = (session.play first).play second := by
  induction first generalizing session with
  | nil => rfl
  | cons i first ih => exact ih _

theorem runs_turn_self (session : Session n) (i : Fin n) :
    (session.turn i).runs i = ((session.runs i).act session.tree).1 := if_pos rfl

theorem runs_turn_of_ne (session : Session n) {i j : Fin n} (h : j ≠ i) :
    (session.turn i).runs j = session.runs j := if_neg h

/-- With every turn of its own a run has one action less ahead of it. -/
theorem pending_play (session : Session n) (schedule : List (Fin n)) (i : Fin n) :
    ((session.play schedule).runs i).pending ≤ (session.runs i).pending - schedule.count i := by
  induction schedule generalizing session with
  | nil => exact Nat.le_refl _
  | cons j schedule ih =>
      have hrest := ih (session.turn j)
      by_cases h : i = j
      · subst h
        rw [runs_turn_self] at hrest
        have hturn := Stage.pending_act (session.runs i) session.tree
        rw [List.count_cons_self]
        simp only [play]
        omega
      · rw [runs_turn_of_ne _ h] at hrest
        rw [List.count_cons_of_ne (Ne.symm h)]
        exact hrest

theorem play_replicate (session : Session n) (count : Nat) (i : Fin n) :
    (session.play (List.replicate count i)).tree = ((session.runs i).acts count session.tree).2 ∧
    ∀ j, j ≠ i → (session.play (List.replicate count i)).runs j = session.runs j := by
  induction count generalizing session with
  | zero => exact ⟨rfl, fun _ _ => rfl⟩
  | succ count ih =>
      obtain ⟨htree, hruns⟩ := ih (session.turn i)
      rw [runs_turn_self] at htree
      exact ⟨htree, fun j hj => (hruns j hj).trans (runs_turn_of_ne session hj)⟩

end Session

/-- The tree that calls leave that are made one after the other. -/
def Call.inTurn {n : Nat} (render : Renderer) (profile : Profile) (layout : Layout) (calls : Fin n → Call)
    (order : List (Fin n)) (tree : FileTree) : FileTree :=
  order.foldl (fun tree i => ((calls i).run render profile layout tree).tree) tree

/-- Calls that are made one after the other are runs that take all their turns in a row. -/
theorem Session.play_inTurn {n : Nat} (render : Renderer) (profile : Profile) (layout : Layout)
    (calls : Fin n → Call) {order : List (Fin n)} (hnodup : order.Nodup) (session : Session n)
    (hstart : ∀ i ∈ order, session.runs i = (calls i).start render profile layout) :
    (session.play (order.flatMap (List.replicate 5))).tree =
      Call.inTurn render profile layout calls order session.tree := by
  induction order generalizing session with
  | nil => rfl
  | cons i order ih =>
      obtain ⟨hi, hnodup⟩ := List.nodup_cons.mp hnodup
      obtain ⟨htree, hruns⟩ := session.play_replicate 5 i
      have hpending : (session.runs i).pending ≤ 5 := hstart i List.mem_cons_self ▸ Call.pending_start ..
      rw [(Stage.acts_eq_finish hpending _).2, hstart i List.mem_cons_self, Call.finish_start] at htree
      have hrest := ih hnodup (session.play (List.replicate 5 i)) fun j hj =>
        (hruns j fun h => hi (h ▸ hj)).trans (hstart j (List.mem_cons_of_mem _ hj))
      rw [List.flatMap_cons, play_append, hrest, htree]
      rfl

end Scaffold
