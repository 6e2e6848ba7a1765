import Scaffold.Proofs.CommandLine.Reading

/-! A command line taken item by item. Each phrase is read by taking its item, which succeeds unless an item of this
kind was taken before, and only phrases can be read. What was taken is what the arguments record in the end. -/

namespace Scaffold

variable {command : Command} {text : Text} {rest names : List Text} {setting : Setting} {phrase : Phrase} {item : Item}
  {a b : Arguments}

theorem IsOperand.ne_separator (h : IsOperand text) : text ≠ "--" := by
  rintro rfl
  exact absurd h (by decide)

theorem Phrase.arguments_ne_nil (phrase : Phrase) : phrase.arguments ≠ [] := by
  cases phrase <;> exact List.cons_ne_nil _ _

theorem Phrase.IsFor.item_ne (h : phrase.IsFor command) : phrase.item ≠ .setting .root [] := by
  cases phrase with
  | joined setting value =>
      intro heq
      obtain ⟨rfl, rfl⟩ := Item.setting.inj heq
      exact h.2 rfl rfl
  | apart setting value =>
      intro heq
      obtain ⟨rfl, rfl⟩ := Item.setting.inj heq
      exact h.2.1 rfl rfl
  | name | dryRun | verbose | letter => nofun

/-! ### Items of arguments -/

namespace Arguments

/-- Different arguments say different things. -/
theorem eq_of_perm (h : a.items.Perm b.items) : a = b := by
  have hmem := fun item => h.mem_iff (a := item)
  have hname := hmem (.name a.className)
  have hbase := fun value => hmem (.setting .baseClass value)
  have hroot := fun value => hmem (.setting .root value)
  have hdryRun := hmem .dryRun
  have hverbose := hmem .verbose
  obtain ⟨name, base, root, dryRun, verbose⟩ := a
  obtain ⟨name', base', root', dryRun', verbose'⟩ := b
  simp [items] at hname hbase hroot hdryRun hverbose
  obtain rfl : base = base' := Option.ext hbase
  obtain rfl : root = root' := Option.ext hroot
  rw [hname, hdryRun, hverbose]

theorem kinds_nodup (a : Arguments) : (a.items.map Item.kind).Nodup := by
  obtain ⟨name, base, root, dryRun, verbose⟩ := a
  cases base <;> cases root <;> cases dryRun <;> cases verbose <;> simp [items, Item.kind]

end Arguments

namespace Progress

variable {p later : Progress}

/-- What was taken so far. -/
def items (p : Progress) : List Item :=
  p.className.toList.map .name ++ (p.baseClass.toList.map (.setting .baseClass)
    ++ p.root.toList.map (.setting .root)
    ++ (if p.dryRun then [.dryRun] else []) ++ (if p.verbose then [.verbose] else []))

/-- Takes an item at once. -/
def take (p : Progress) : Item → Except Stop Progress
  | .name text => if p.className.isSome then .error (.fault (.unknown text)) else .ok { p with className := some text }
  | .setting setting value => p.store value setting
  | .dryRun => p.flag .dryRun
  | .verbose => p.flag .verbose

theorem ne_nil_of_store {value : Text} (h : p.store value setting = .ok later) : setting = .root → value ≠ [] := by
  rintro rfl rfl
  grind [store]

/-- An item is taken unless one of its kind was taken before. -/
theorem take_cases (hheld : p.held = none) (hitem : item ≠ .setting .root []) :
    (∃ later, p.take item = .ok later ∧ later.held = none ∧ later.items.Perm (item :: p.items)) ∨
    (∃ stop, p.take item = .error stop) ∧ item.kind ∈ p.items.map Item.kind := by
  obtain ⟨name, base, root, dryRun, verbose, held⟩ := p
  obtain rfl : held = none := hheld
  cases item with
  | name text =>
      cases name with
      | some _ => exact Or.inr ⟨⟨_, rfl⟩, by simp [items, Item.kind]⟩
      | none => exact Or.inl ⟨_, rfl, rfl, .refl _⟩
  | setting setting value =>
      cases setting with
      | baseClass =>
          cases base with
          | some _ => exact Or.inr ⟨⟨_, rfl⟩, by simp [items, Item.kind]⟩
          | none => exact Or.inl ⟨_, rfl, rfl, List.perm_iff_count.mpr fun _ => by grind [items]⟩
      | root =>
          cases root with
          | some _ => exact Or.inr ⟨⟨_, rfl⟩, by simp [items, Item.kind]⟩
          | none =>
              have hvalue : value ≠ [] := fun h => hitem (by rw [h])
              exact Or.inl ⟨_, if_neg hvalue, rfl, List.perm_iff_count.mpr fun _ => by grind [items]⟩
  | dryRun =>
      cases dryRun with
      | true => exact Or.inr ⟨⟨_, rfl⟩, by simp [items, Item.kind]⟩
      | false => exact Or.inl ⟨_, rfl, rfl, List.perm_iff_count.mpr fun _ => by grind [items]⟩
  | verbose =>
      cases verbose with
      | true => exact Or.inr ⟨⟨_, rfl⟩, by simp [items, Item.kind]⟩
      | false => exact Or.inl ⟨_, rfl, rfl, List.perm_iff_count.mpr fun _ => by grind [items]⟩

/-- All that was taken is what the arguments record. -/
theorem finish_eq_ok_iff (hheld : p.held = none) : p.finish = .ok a ↔ p.items.Perm a.items := by
  obtain ⟨name, base, root, dryRun, verbose, held⟩ := p
  obtain rfl : held = none := hheld
  cases name with
  | none =>
      refine ⟨nofun, fun h => ?_⟩
      have hname : Item.name a.className ∈ a.items := List.mem_cons_self
      simp [← h.mem_iff, items] at hname
  | some name =>
      let b : Arguments := ⟨name, base, root, dryRun, verbose⟩
      change Except.ok b = .ok a ↔ b.items.Perm a.items
      exact ⟨fun h => Except.ok.inj h ▸ .refl _, fun h => congrArg _ (Arguments.eq_of_perm h)⟩

/-! ### Phrases are read by taking items -/

theorem name_bind_eq_ok_iff (hheld : p.held = none) {f : Progress → Except Stop Arguments}
    (hf : ∀ q : Progress, ¬q.IsWaiting → q.SettlesFirst f) (text : Text) :
    (p.name text).bind f = .ok a ↔ ∃ later, p.take (.name text) = .ok later ∧ f later = .ok a := by
  obtain ⟨name, base, root, dryRun, verbose, held⟩ := p
  obtain rfl : held = none := hheld
  cases name with
  | some _ => simp [take, Progress.name, hasName, Except.bind]
  | none => exact hf ⟨none, base, root, dryRun, verbose, some (.name text)⟩ (by rintro ⟨_, ⟨⟩⟩) a

/-- Behind a separator each argument is taken as a name. -/
theorem readNames_cons_iff (hheld : p.held = none) (text : Text) (names : List Text) :
    p.readNames (text :: names) = .ok a ↔ ∃ later, p.take (.name text) = .ok later ∧ later.readNames names = .ok a := by
  rw [readNames_cons]
  exact name_bind_eq_ok_iff hheld (fun q _ => q.settlesFirst_readNames names) text

theorem look_letter (p : Progress) (command : Command) : p.look command "-v" = p.flag .verbose := by
  change p.letters ['v'] = _
  have hletters : p.letters ['v'] = (p.flag .verbose).bind (·.letters []) := p.letters_cons 'v' []
  rw [hletters]
  cases p.flag .verbose <;> rfl

/-- What the next argument is taken for behind a setting without its value. -/
theorem read_value (hheld : p.held = some (.setting setting none)) (h : IsOperand text) (command : Command)
    (rest : List Text) :
    p.read command (text :: rest) = { p with held := some (.setting setting (some text)) }.read command rest := by
  rw [read_cons h.ne_separator, look_of_isOperand h, plain, hheld]
  rfl

/-- A phrase is read by taking its item. -/
theorem read_phrase (hheld : p.held = none) (h : phrase.IsFor command) (rest : List Text) :
    p.read command (phrase.arguments ++ rest) = .ok a ↔
      ∃ later, p.take phrase.item = .ok later ∧ later.read command rest = .ok a := by
  cases phrase with
  | name text =>
      rw [Phrase.arguments, List.singleton_append, read_cons h.ne_separator, look_of_isOperand h,
        plain_of_not_isWaiting (not_isWaiting_of_held hheld)]
      exact name_bind_eq_ok_iff hheld (fun q hq => settlesFirst_read hq command rest) text
  | joined setting value =>
      rw [Phrase.arguments, List.singleton_append, read_long (Argument.ofText_joined setting value), long_setting h.1,
        setting_of_held hheld, bind_eq_ok_iff]
      rfl
  | apart setting value =>
      obtain ⟨hsetting, -, hvalue⟩ := h
      rw [Phrase.arguments, List.cons_append, List.singleton_append, read_long (Argument.ofText_apart setting),
        long_setting hsetting, setting_of_held hheld]
      change Progress.read _ command (value :: rest) = _ ↔ _
      rw [read_value rfl hvalue]
      refine (settlesFirst_read (by rintro ⟨_, ⟨⟩⟩) command rest a).trans ?_
      have hsettle : settle { p with held := some (.setting setting (some value)) } = p.store value setting := by
        obtain ⟨name, base, root, dryRun, verbose, held⟩ := p
        obtain rfl : held = none := hheld
        rfl
      rw [hsettle]
      rfl
  | dryRun =>
      rw [Phrase.arguments, List.singleton_append, read_cons (by decide), bind_eq_ok_iff]
      cases command <;> rfl
  | verbose =>
      rw [Phrase.arguments, List.singleton_append, read_cons (by decide), bind_eq_ok_iff]
      cases command <;> rfl
  | letter =>
      rw [Phrase.arguments, List.singleton_append, read_cons (by decide), bind_eq_ok_iff, look_letter]
      rfl

/-! ### Only phrases can be read -/

/-- A setting that waits for its value gets it from the next argument. -/
theorem exists_value (hheld : p.held = some (.setting setting none)) (h : p.read command rest = .ok a) :
    ∃ value behind, rest = value :: behind ∧ IsOperand value := by
  obtain ⟨stop, hstop⟩ := IsWaiting.settle ⟨setting, hheld⟩
  have hfails : ∀ {f : Progress → Except Stop Arguments}, p.SettlesFirst f → f p ≠ .ok a := by
    intro f hf hok
    obtain ⟨q, hsettle, -⟩ := (hf a).mp hok
    rw [hstop] at hsettle
    cases hsettle
  cases rest with
  | nil => exact absurd h (hfails p.settlesFirst_finish)
  | cons text behind =>
      refine ⟨text, behind, rfl, Decidable.byContradiction fun hoperand => ?_⟩
      by_cases hseparator : text = "--"
      · subst hseparator
        exact hfails (p.settlesFirst_readNames behind) h
      · rw [read_cons hseparator] at h
        exact hfails ((settlesFirst_look hseparator (fun htext => absurd htext hoperand) command).bind _) h

/-- Of the letters only that for verbose lets the reading go on. -/
theorem letters_cons_cases {c : Char} {cs : Text} (hheld : p.held = none) (h : p.letters (c :: cs) = .ok later) :
    c = 'v' ∧ p.verbose = false ∧ { p with verbose := true }.letters cs = .ok later := by
  obtain ⟨name, base, root, dryRun, verbose, held⟩ := p
  obtain rfl : held = none := hheld
  rw [letters_cons] at h
  split at h
  next => cases h
  next flag hfind =>
    have hletter : flag.letter? = some c := by simpa using List.find?_some hfind
    cases flag with
    | dryRun => cases hletter
    | help | version => cases h
    | verbose =>
        cases verbose with
        | true => cases h
        | false => exact ⟨(Option.some.inj hletter).symm, rfl, h⟩

theorem eq_letter_of_letters {c : Char} {cs : Text} (hheld : p.held = none) (h : p.letters (c :: cs) = .ok later) :
    c = 'v' ∧ cs = [] := by
  obtain ⟨hc, -, hrest⟩ := letters_cons_cases hheld h
  refine ⟨hc, Decidable.byContradiction fun hcs => ?_⟩
  obtain ⟨c', cs', rfl⟩ := List.exists_cons_of_ne_nil hcs
  have htaken : { p with verbose := true }.held = none := hheld
  obtain ⟨-, hagain, -⟩ := letters_cons_cases htaken hrest
  cases hagain

/-- What is read begins with a phrase. -/
theorem exists_phrase (hheld : p.held = none) (hseparator : text ≠ "--")
    (h : p.read command (text :: rest) = .ok a) :
    ∃ phrase behind, Phrase.IsFor command phrase ∧ text :: rest = phrase.arguments ++ behind := by
  rcases Argument.ofText_cases text with
    ⟨rfl, -⟩ | ⟨name, value, rfl, hlook⟩ | ⟨c, cs, rfl, hlook⟩ | ⟨hoperand, -⟩
  · exact absurd rfl hseparator
  · rw [read_long hlook, bind_eq_ok_iff] at h
    obtain ⟨later, hlong, hrest⟩ := h
    rcases long_cases hlong with ⟨setting, hsetting, rfl, hset⟩ | ⟨flag, rfl, rfl, hflag⟩
    · rw [setting_of_held hheld] at hset
      cases value with
      | some value =>
          refine ⟨.joined setting value, rest, ⟨hsetting, ne_nil_of_store hset⟩, ?_⟩
          simp [Phrase.arguments]
      | none =>
          obtain rfl := Except.ok.inj hset
          obtain ⟨value, behind, rfl, hvalue⟩ := exists_value rfl hrest
          rw [read_value rfl hvalue] at hrest
          obtain ⟨q, hsettle, -⟩ := (settlesFirst_read (by rintro ⟨_, ⟨⟩⟩) command behind a).mp hrest
          refine ⟨.apart setting value, behind, ⟨hsetting, ne_nil_of_store hsettle, hvalue⟩, ?_⟩
          simp [Phrase.arguments]
    · cases flag with
      | dryRun => exact ⟨.dryRun, rest, trivial, rfl⟩
      | verbose => exact ⟨.verbose, rest, trivial, rfl⟩
      | help | version =>
          rw [flag, settle_of_held hheld] at hflag
          cases hflag
  · rw [read_cons hseparator, look, hlook, bind_eq_ok_iff] at h
    obtain ⟨later, hletters, -⟩ := h
    obtain ⟨rfl, rfl⟩ := eq_letter_of_letters hheld hletters
    exact ⟨.letter, rest, trivial, rfl⟩
  · exact ⟨.name text, rest, hoperand, rfl⟩

end Progress

end Scaffold
