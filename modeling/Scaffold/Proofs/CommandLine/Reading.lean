import Scaffold.Proofs.CommandLine.Wording

/-! What a command line does argument by argument. A value is held back when it is read and looked at when the next
argument is. Where nothing is wrong with it, it does not matter when it is looked at, so that reading may be
thought of as taking one item after the other. -/

namespace Scaffold

variable {command : Command} {text name : Text} {value : Option Text} {rest names : List Text} {setting : Setting}
  {flag : Flag} {item : Item} {arguments : Arguments}

/-! ### How arguments look -/

theorem splitValue_eq_iff {cs : Text} :
    splitValue cs = (name, value) ↔ '=' ∉ name ∧ cs = name ++ value.elim [] ('=' :: ·) := by
  induction cs generalizing name with
  | nil => cases value <;> cases name <;> simp [splitValue]
  | cons c cs ih =>
      by_cases hc : c = '='
      · subst hc
        cases value <;> cases name <;> simp +contextual [splitValue, eq_comm]
      · cases name with
        | nil => cases value <;> simp [splitValue, hc]
        | cons d name =>
            rw [splitValue, if_neg hc]
            have := @ih name
            grind

theorem Setting.name_ne_nil (setting : Setting) : setting.name ≠ [] := by
  cases setting <;> decide

theorem Setting.sign_notMem_name (setting : Setting) : '=' ∉ setting.name := by
  cases setting <;> decide

namespace Argument

/-- The four looks of an argument. -/
theorem ofText_cases (text : Text) :
    text = "--" ∧ ofText text = .separator ∨
    (∃ name value, text = "--" ++ name ++ value.elim [] ('=' :: ·) ∧ ofText text = .long name value) ∨
    (∃ c cs, text = '-' :: c :: cs ∧ ofText text = .letters (c :: cs)) ∨
    IsOperand text ∧ ofText text = .plain text := by
  fun_cases ofText text with
  | case1 => exact Or.inl ⟨rfl, rfl⟩
  | case2 cs hcs =>
      refine Or.inr (Or.inl ⟨_, _, ?_, rfl⟩)
      exact congrArg ("--".toList ++ ·) (splitValue_eq_iff.mp rfl).2
  | case3 => exact Or.inr (Or.inr (Or.inr ⟨Or.inl rfl, rfl⟩))
  | case4 cs _ _ hcs =>
      obtain ⟨c, cs, rfl⟩ := List.exists_cons_of_ne_nil hcs
      exact Or.inr (Or.inr (Or.inl ⟨c, cs, rfl, rfl⟩))
  | case5 text _ _ _ hdash =>
      refine Or.inr (Or.inr (Or.inr ⟨Or.inr fun h => ?_, rfl⟩))
      obtain ⟨cs, rfl⟩ := List.head?_eq_some_iff.mp h
      exact hdash cs rfl

theorem ofText_of_isOperand (h : IsOperand text) : ofText text = .plain text := by
  rcases h with rfl | h
  · rfl
  · rcases ofText_cases text with ⟨rfl, -⟩ | ⟨name, value, rfl, -⟩ | ⟨c, cs, rfl, -⟩ | ⟨-, hplain⟩
    · exact absurd rfl h
    · exact absurd rfl h
    · exact absurd rfl h
    · exact hplain

theorem ofText_long (hname : name ≠ []) (hsign : '=' ∉ name) (value : Option Text) :
    ofText ("--" ++ (name ++ value.elim [] ('=' :: ·))) = .long name value := by
  obtain ⟨c, cs, rfl⟩ := List.exists_cons_of_ne_nil hname
  have hsplit : splitValue (c :: cs ++ value.elim [] ('=' :: ·)) = (c :: cs, value) :=
    splitValue_eq_iff.mpr ⟨hsign, rfl⟩
  change Argument.long (splitValue (c :: cs ++ _)).1 (splitValue (c :: cs ++ _)).2 = _
  rw [hsplit]

theorem ofText_joined (setting : Setting) (value : Text) :
    ofText ("--" ++ setting.name ++ "=" ++ value) = .long setting.name (some value) := by
  rw [List.append_assoc, List.append_assoc]
  exact ofText_long setting.name_ne_nil setting.sign_notMem_name (some value)

theorem ofText_apart (setting : Setting) : ofText ("--" ++ setting.name) = .long setting.name none := by
  have hlook := ofText_long setting.name_ne_nil setting.sign_notMem_name none
  rwa [Option.elim_none, List.append_nil] at hlook

end Argument

theorem Command.find?_setting (h : setting ∈ command.settings) :
    command.settings.find? (·.name = setting.name) = some setting := by
  revert h
  cases command <;> cases setting <;> decide

theorem bind_eq_ok_iff {α β : Type} {result : Except Stop α} {next : α → Except Stop β} {value : β} :
    result.bind next = .ok value ↔ ∃ first, result = .ok first ∧ next first = .ok value := by
  cases result <;> simp [Except.bind]

namespace Progress

variable {p q later : Progress}

/-! ### Values held back -/

/-- The last setting waits for its value. -/
def IsWaiting (p : Progress) : Prop := ∃ setting, p.held = some (.setting setting none)

theorem IsWaiting.settle (h : p.IsWaiting) : ∃ stop, p.settle = .error stop := by
  obtain ⟨setting, hheld⟩ := h
  exact ⟨_, by rw [Progress.settle, hheld]⟩

theorem not_isWaiting_of_held (h : p.held = none) : ¬p.IsWaiting := by
  rintro ⟨setting, hwaiting⟩
  rw [h] at hwaiting
  cases hwaiting

theorem settle_of_held (h : p.held = none) : p.settle = .ok p := by
  rw [settle, h]

theorem store_kept {value : Text} (h : p.store value setting = .ok q) :
    q.className = p.className ∧ q.held = p.held := by
  cases setting <;> grind [store]

theorem held_of_settle (h : p.settle = .ok q) : q.held = none := by
  rw [settle] at h
  split at h
  next hheld => exact Except.ok.inj h ▸ hheld
  next => exact Except.ok.inj h ▸ rfl
  next => cases h
  next => exact (store_kept h).2

theorem hasName_of_settle (h : p.settle = .ok q) : q.hasName = p.hasName := by
  rw [settle] at h
  split at h
  next => rw [Except.ok.inj h]
  next text hheld =>
    obtain rfl := Except.ok.inj h
    simp [hasName, hheld]
  next => cases h
  next hheld =>
    obtain ⟨hname, hnone⟩ := store_kept h
    simp [hasName, hheld, hname, hnone]

/-- It makes no difference to what succeeds whether the value held back is looked at first. Which of two faults is
found may depend on it. -/
def SettlesFirst {α : Type} (p : Progress) (f : Progress → Except Stop α) : Prop :=
  ∀ result, f p = .ok result ↔ ∃ q, p.settle = .ok q ∧ f q = .ok result

theorem settlesFirst_error {α : Type} (p : Progress) (stop : Stop) :
    p.SettlesFirst fun _ => (.error stop : Except Stop α) := by
  simp [SettlesFirst]

theorem settlesFirst_settle {α : Type} (p : Progress) (f : Progress → Except Stop α) :
    p.SettlesFirst fun p => p.settle.bind f := by
  intro result
  cases hsettle : p.settle with
  | error stop => simp [hsettle, Except.bind]
  | ok q => simp [hsettle, settle_of_held (held_of_settle hsettle)]

theorem SettlesFirst.bind {α β : Type} {f : Progress → Except Stop α} (h : p.SettlesFirst f)
    (next : α → Except Stop β) : p.SettlesFirst fun p => (f p).bind next := by
  intro result
  simp only [bind_eq_ok_iff]
  constructor
  · rintro ⟨value, hvalue, hnext⟩
    obtain ⟨q, hsettle, hvalue⟩ := (h value).mp hvalue
    exact ⟨q, hsettle, value, hvalue, hnext⟩
  · rintro ⟨q, hsettle, value, hvalue, hnext⟩
    exact ⟨value, (h value).mpr ⟨q, hsettle, hvalue⟩, hnext⟩

theorem settlesFirst_flag (p : Progress) (flag : Flag) : p.SettlesFirst (·.flag flag) :=
  p.settlesFirst_settle _

theorem settlesFirst_setting (p : Progress) (setting : Setting) (value : Option Text) :
    p.SettlesFirst (·.setting setting value) :=
  p.settlesFirst_settle _

theorem settlesFirst_finish (p : Progress) : p.SettlesFirst finish := p.settlesFirst_settle _

theorem settlesFirst_long (p : Progress) (command : Command) (name : Text) (value : Option Text) :
    p.SettlesFirst (·.long command name value) := by
  unfold long
  split
  next => exact p.settlesFirst_setting _ _
  next =>
    split
    next => exact p.settlesFirst_error _
    next =>
      cases value with
      | some value => exact p.settlesFirst_error _
      | none => exact p.settlesFirst_flag _

/-- A long option is a setting of the command or a flag. -/
theorem long_cases {p later : Progress} (h : p.long command name value = .ok later) :
    (∃ setting ∈ command.settings, setting.name = name ∧ p.setting setting value = .ok later) ∨
    ∃ flag : Flag, flag.name = name ∧ value = none ∧ p.flag flag = .ok later := by
  rw [long] at h
  split at h
  next setting hfind =>
    exact Or.inl ⟨setting, List.mem_of_find?_eq_some hfind, by simpa using List.find?_some hfind, h⟩
  next =>
    split at h
    next => cases h
    next flag hfind =>
      cases value with
      | some value => cases h
      | none => exact Or.inr ⟨flag, by simpa using List.find?_some hfind, rfl, h⟩

theorem long_setting (h : setting ∈ command.settings) (p : Progress) (value : Option Text) :
    p.long command setting.name value = p.setting setting value := by
  rw [long, Command.find?_setting h]

theorem setting_of_held (h : p.held = none) (setting : Setting) (value : Option Text) :
    p.setting setting value = match value with
      | some value => p.store value setting
      | none => .ok { p with held := some (.setting setting none) } := by
  rw [Progress.setting, settle_of_held h]
  rfl

theorem letters_cons (p : Progress) (c : Char) (cs : Text) :
    p.letters (c :: cs) = match Flag.all.find? (·.letter? = some c) with
      | none => .error (.fault (.unknown ['-', c]))
      | some flag => (p.flag flag).bind (·.letters cs) := by
  rw [letters]
  cases Flag.all.find? (·.letter? = some c) with
  | none => rfl
  | some flag => cases hflag : p.flag flag <;> simp only [hflag, Except.bind]

theorem settlesFirst_letters (p : Progress) (c : Char) (cs : Text) : p.SettlesFirst (·.letters (c :: cs)) := by
  simp only [letters_cons]
  split
  next => exact p.settlesFirst_error _
  next => exact (p.settlesFirst_flag _).bind _

theorem settlesFirst_name (p : Progress) (text : Text) : p.SettlesFirst (·.name text) := by
  intro later
  cases hsettle : p.settle with
  | error stop =>
      cases hname : p.hasName <;> simp [name, hname, hsettle, Except.map]
  | ok q => simp [name, hsettle, settle_of_held (held_of_settle hsettle), hasName_of_settle hsettle]

theorem plain_of_not_isWaiting (h : ¬p.IsWaiting) (text : Text) : p.plain text = p.name text := by
  rw [plain]
  split
  next setting hheld => exact absurd ⟨setting, hheld⟩ h
  next => rfl

theorem settlesFirst_plain (h : ¬p.IsWaiting) (text : Text) : p.SettlesFirst (·.plain text) := by
  have hheld : ∀ q, p.settle = .ok q → q.plain text = q.name text := fun q hsettle =>
    plain_of_not_isWaiting (not_isWaiting_of_held (held_of_settle hsettle)) text
  intro later
  change p.plain text = .ok later ↔ ∃ q, p.settle = .ok q ∧ q.plain text = .ok later
  rw [plain_of_not_isWaiting h, p.settlesFirst_name text later]
  exact exists_congr fun q => and_congr_right fun hsettle => by rw [hheld q hsettle]

theorem readNames_cons (p : Progress) (text : Text) (rest : List Text) :
    p.readNames (text :: rest) = (p.name text).bind (·.readNames rest) := by
  rw [readNames]
  cases p.name text <;> rfl

theorem settlesFirst_readNames (p : Progress) (names : List Text) : p.SettlesFirst (·.readNames names) := by
  cases names with
  | nil => exact p.settlesFirst_finish
  | cons text rest =>
      simp only [readNames_cons]
      exact (p.settlesFirst_name text).bind _

/-! ### One argument after the other -/

/-- Takes an argument that is no separator. -/
def look (p : Progress) (command : Command) (text : Text) : Except Stop Progress :=
  match Argument.ofText text with
  | .separator => .ok p
  | .long name value => p.long command name value
  | .letters letters => p.letters letters
  | .plain text => p.plain text

theorem read_cons (h : text ≠ "--") (p : Progress) (command : Command) (rest : List Text) :
    p.read command (text :: rest) = (p.look command text).bind (·.read command rest) := by
  rcases Argument.ofText_cases text with ⟨rfl, -⟩ | ⟨name, value, -, hlook⟩ | ⟨c, cs, -, hlook⟩ | ⟨-, hlook⟩
  · exact absurd rfl h
  · simp only [read, look, hlook]
    cases p.long command name value <;> rfl
  · simp only [read, look, hlook]
    cases p.letters (c :: cs) <;> rfl
  · simp only [read, look, hlook]
    cases p.plain text <;> rfl

theorem read_long (h : Argument.ofText text = .long name value) (p : Progress) (command : Command)
    (rest : List Text) :
    p.read command (text :: rest) = (p.long command name value).bind (·.read command rest) := by
  have hseparator : text ≠ "--" := by
    rintro rfl
    cases h
  rw [read_cons hseparator, look, h]

theorem look_of_isOperand (h : IsOperand text) (p : Progress) (command : Command) :
    p.look command text = p.plain text := by
  rw [look, Argument.ofText_of_isOperand h]

theorem settlesFirst_look (h : text ≠ "--") (hplain : IsOperand text → ¬p.IsWaiting) (command : Command) :
    p.SettlesFirst (·.look command text) := by
  rcases Argument.ofText_cases text with ⟨rfl, -⟩ | ⟨name, value, -, hlook⟩ | ⟨c, cs, -, hlook⟩ | ⟨htext, hlook⟩
  · exact absurd rfl h
  · simp only [look, hlook]
    exact p.settlesFirst_long _ _ _
  · simp only [look, hlook]
    exact p.settlesFirst_letters _ _
  · simp only [look, hlook]
    exact settlesFirst_plain (hplain htext) _

theorem settlesFirst_read (h : ¬p.IsWaiting) (command : Command) (rest : List Text) :
    p.SettlesFirst (·.read command rest) := by
  cases rest with
  | nil => exact p.settlesFirst_finish
  | cons text rest =>
      by_cases hseparator : text = "--"
      · subst hseparator
        exact p.settlesFirst_readNames rest
      · simp only [read_cons hseparator]
        exact (settlesFirst_look hseparator (fun _ => h) command).bind _

end Progress

end Scaffold
