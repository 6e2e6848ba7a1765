import Scaffold.Proofs.CommandLine.Taking

/-! Which command lines are understood, and as what. They are those that can be worded with one name and at most one
item of each other kind, and the arguments record these items. So it matters neither how an item is phrased nor
where it stands. -/

namespace Scaffold

variable {command : Command} {arguments names : List Text} {items : List Item} {item : Item} {wording : Wording}
  {a : Arguments}

theorem Wording.arguments_cons (phrase : Phrase) (phrases : List Phrase) (behind : Option (List Text)) :
    Wording.arguments ⟨phrase :: phrases, behind⟩ = phrase.arguments ++ Wording.arguments ⟨phrases, behind⟩ := by
  simp only [Wording.arguments, List.flatMap_cons, List.append_assoc]

/-! ### Taking all items -/

namespace Progress

variable {p : Progress}

/-- An item can be taken, and further items behind it, if all of them together can be recorded. -/
theorem exists_take_iff (hheld : p.held = none) (hitem : item ≠ .setting .root []) {goes : Progress → Prop}
    (hgoes : ∀ later, later.held = none → (goes later ↔ (later.items ++ items).Perm a.items)) :
    (∃ later, p.take item = .ok later ∧ goes later) ↔ (p.items ++ item :: items).Perm a.items := by
  rcases take_cases hheld hitem with ⟨later, htake, hlater, hperm⟩ | ⟨⟨stop, htake⟩, hkind⟩
  · have hall : (p.items ++ item :: items).Perm (later.items ++ items) :=
      List.perm_middle.trans (hperm.symm.append_right items)
    rw [hall.congr_left, ← hgoes later hlater, htake]
    simp
  · rw [htake]
    refine ⟨nofun, fun hperm => ?_⟩
    have hnodup := (hperm.map Item.kind).nodup_iff.mpr a.kinds_nodup
    rw [List.map_append, List.map_cons, List.nodup_append] at hnodup
    exact absurd rfl (hnodup.2.2 _ hkind _ List.mem_cons_self)

theorem held_of_take {later : Progress} (hheld : p.held = none) (hitem : item ≠ .setting .root [])
    (h : p.take item = .ok later) : later.held = none := by
  rcases take_cases hheld hitem with ⟨taken, htake, htaken, -⟩ | ⟨⟨stop, htake⟩, -⟩
  · exact Except.ok.inj (htake.symm.trans h) ▸ htaken
  · rw [htake] at h
    cases h

theorem readNames_eq_ok_iff (hheld : p.held = none) :
    p.readNames names = .ok a ↔ (p.items ++ names.map Item.name).Perm a.items := by
  induction names generalizing p with
  | nil =>
      rw [List.map_nil, List.append_nil]
      exact finish_eq_ok_iff hheld
  | cons text names ih =>
      have hitem : Item.name text ≠ .setting .root [] := nofun
      rw [readNames_cons_iff hheld]
      exact exists_take_iff hheld hitem fun later hlater => ih hlater

/-- A wording is read if its items can be recorded together with those that were taken before. -/
theorem read_eq_ok_iff (hheld : p.held = none) (h : wording.IsFor command) :
    p.read command wording.arguments = .ok a ↔ (p.items ++ wording.items).Perm a.items := by
  obtain ⟨phrases, behind⟩ := wording
  induction phrases generalizing p with
  | nil =>
      cases behind with
      | none =>
          change p.finish = .ok a ↔ (p.items ++ []).Perm a.items
          rw [List.append_nil]
          exact finish_eq_ok_iff hheld
      | some names => exact readNames_eq_ok_iff hheld
  | cons phrase phrases ih =>
      obtain ⟨hphrase, hphrases⟩ := List.forall_mem_cons.mp h
      rw [Wording.arguments_cons, read_phrase hheld hphrase]
      exact exists_take_iff hheld hphrase.item_ne fun later hlater => ih hlater hphrases

/-- What is read is the command line of a wording. -/
theorem exists_wording (hheld : p.held = none) (h : p.read command arguments = .ok a) :
    ∃ wording : Wording, wording.IsFor command ∧ wording.arguments = arguments := by
  -- A phrase may take two arguments, so that what is left need not be the tail.
  induction hlength : arguments.length using Nat.strongRecOn generalizing p arguments with
  | ind length ih =>
      cases arguments with
      | nil => exact ⟨⟨[], none⟩, nofun, rfl⟩
      | cons text rest =>
          by_cases hseparator : text = "--"
          · subst hseparator
            exact ⟨⟨[], some rest⟩, nofun, rfl⟩
          · obtain ⟨phrase, behind, hphrase, harguments⟩ := exists_phrase hheld hseparator h
            rw [harguments] at h hlength ⊢
            obtain ⟨later, htake, hbehind⟩ := (read_phrase hheld hphrase behind).mp h
            have hshorter : behind.length < length := by
              have hpositive := List.length_pos_iff.mpr phrase.arguments_ne_nil
              rw [List.length_append] at hlength
              omega
            obtain ⟨⟨phrases, names⟩, hphrases, rfl⟩ :=
              ih _ hshorter (held_of_take hheld hphrase.item_ne htake) hbehind rfl
            refine ⟨⟨phrase :: phrases, names⟩, List.forall_mem_cons.mpr ⟨hphrase, hphrases⟩, ?_⟩
            exact Wording.arguments_cons phrase phrases names

end Progress

/-! ### Command lines -/

namespace Command

theorem parse_eq_ok_iff (h : wording.IsFor command) :
    command.parse wording.arguments = .ok a ↔ wording.items.Perm a.items :=
  Progress.read_eq_ok_iff rfl h

/-- What is not behind a separator belongs to a phrase. -/
theorem mem_phrases_of_arguments_eq {before after : List Text} {text : Text}
    (h : wording.arguments = before ++ text :: after) (hseparator : ("--" : Text) ∉ before ++ [text]) :
    text ∈ wording.phrases.flatMap Phrase.arguments := by
  have hlast : text ∈ before ++ [text] := List.mem_append_right _ (List.mem_singleton_self text)
  rw [Wording.arguments, List.append_cons, List.append_eq_append_iff] at h
  rcases h with ⟨more, hahead, hbehind⟩ | ⟨more, hphrases, -⟩
  · cases more with
    | nil =>
        rw [List.append_nil] at hahead
        rwa [hahead] at hlast
    | cons first more =>
        cases hnames : wording.behind with
        | none =>
            rw [hnames] at hbehind
            cases hbehind
        | some names =>
            -- The arguments reach beyond the phrases, so that the separator is among them.
            rw [hnames] at hbehind
            obtain ⟨rfl, -⟩ := List.cons.inj hbehind
            rw [hahead] at hseparator
            exact absurd (List.mem_append_right _ List.mem_cons_self) hseparator
  · rw [hphrases]
    exact List.mem_append_left _ hlast

/-- An option in the command line of a wording begins one of its phrases, if no separator is ahead of it. -/
theorem knows_of_arguments_eq {before after : List Text} {option : Text} (h : wording.IsFor command)
    (harguments : wording.arguments = before ++ option :: after) (hseparator : ("--" : Text) ∉ before ++ [option])
    (hoption : ¬IsOperand option) : command.Knows option := by
  obtain ⟨phrase, hphrase, hmem⟩ := List.mem_flatMap.mp (mem_phrases_of_arguments_eq harguments hseparator)
  refine ⟨phrase, h phrase hphrase, ?_⟩
  cases phrase with
  | apart setting value =>
      rcases List.mem_cons.mp hmem with rfl | hmem
      · rfl
      · obtain ⟨-, -, hvalue⟩ := h _ hphrase
        exact absurd (List.mem_singleton.mp hmem ▸ hvalue) hoption
  | name | joined | dryRun | verbose | letter => exact congrArg some (List.mem_singleton.mp hmem).symm

/-- A command line is understood exactly if it can be worded with one name and at most one item of each other kind,
all of them for the command, and the arguments record these items. So neither the order of the phrases nor the way
an item is phrased matters. A line that says two items of a kind is refused, and so is a line with an option that
the command does not know, unless it stands behind a separator. -/
theorem understands_wordings (command : Command) :
    (∀ arguments a, command.parse arguments = .ok a ↔
      ∃ wording : Wording, wording.IsFor command ∧ wording.arguments = arguments ∧ wording.items.Perm a.items) ∧
    (∀ wording other : Wording, wording.IsFor command → other.IsFor command → wording.items.Perm other.items →
      ∀ a, command.parse wording.arguments = .ok a ↔ command.parse other.arguments = .ok a) ∧
    (∀ wording : Wording, wording.IsFor command → ¬(wording.items.map Item.kind).Nodup →
      ∃ stop, command.parse wording.arguments = .error stop) ∧
    (∀ (before : List Text) (option : Text) (after : List Text), ("--" : Text) ∉ before ++ [option] →
      ¬IsOperand option → ¬command.Knows option → ∃ stop, command.parse (before ++ option :: after) = .error stop) := by
  have hrefused : ∀ arguments, (∀ a, command.parse arguments ≠ .ok a) →
      ∃ stop, command.parse arguments = .error stop := by
    intro arguments h
    cases hparse : command.parse arguments with
    | error stop => exact ⟨stop, rfl⟩
    | ok a => exact absurd hparse (h a)
  have hworded : ∀ {arguments a}, command.parse arguments = .ok a →
      ∃ wording : Wording, wording.IsFor command ∧ wording.arguments = arguments :=
    fun h => Progress.exists_wording rfl h
  refine ⟨fun arguments a => ⟨fun h => ?_, ?_⟩, fun wording other hwording hother hperm a => ?_,
    fun wording hwording hkinds => hrefused _ fun a h => ?_,
    fun before option after hseparator hoption hunknown => hrefused _ fun a h => ?_⟩
  · obtain ⟨wording, hwording, rfl⟩ := hworded h
    exact ⟨wording, hwording, rfl, (parse_eq_ok_iff hwording).mp h⟩
  · rintro ⟨wording, hwording, rfl, hperm⟩
    exact (parse_eq_ok_iff hwording).mpr hperm
  · rw [parse_eq_ok_iff hwording, parse_eq_ok_iff hother]
    exact hperm.congr_left a.items
  · have hperm := (parse_eq_ok_iff hwording).mp h
    exact hkinds ((hperm.map Item.kind).nodup_iff.mpr a.kinds_nodup)
  · obtain ⟨wording, hwording, harguments⟩ := hworded h
    exact hunknown (knows_of_arguments_eq hwording harguments hseparator hoption)

/-- Values that look like options, the letter, and a name behind a separator. -/
theorem understands_wordings_dashes :
    let wording : Wording := ⟨[.letter, .apart .root "-", .joined .baseClass "--root=x"], some ["-Job"]⟩
    let other : Wording := ⟨[.joined .root "-", .verbose, .apart .baseClass "--root=x"], some ["-Job"]⟩
    let respelled : Wording := ⟨[.joined .root "-", .joined .baseClass "--root=x", .verbose], some ["-Job"]⟩
    let twice : Wording := ⟨[.letter, .name "Job", .verbose], none⟩
    (wording.IsFor .newClass ∧ newClass.parse ["-v", "--root", "-", "--base-class=--root=x", "--", "-Job"] =
      .ok ⟨"-Job", some "--root=x", some "-", false, true⟩) ∧
    (respelled.IsFor .newClass ∧ wording.items.Perm respelled.items ∧
      newClass.parse ["--root=-", "--base-class=--root=x", "--verbose", "--", "-Job"] =
      .ok ⟨"-Job", some "--root=x", some "-", false, true⟩) ∧
    ¬other.IsFor .newClass ∧
    (twice.IsFor .newTest ∧ ¬(twice.items.map Item.kind).Nodup ∧
      ∃ stop, newTest.parse ["-v", "Job", "--verbose"] = .error stop) ∧
    (¬newTest.Knows "--base-class=Base" ∧ ∃ stop, newTest.parse ["Job", "--base-class=Base"] = .error stop) := by
  intro wording other respelled twice
  obtain ⟨hparse, hsame, -⟩ := understands_wordings .newClass
  obtain ⟨-, -, htwice, hunknown⟩ := understands_wordings .newTest
  have hwording : wording.IsFor .newClass := by decide +kernel
  have hrespelled : respelled.IsFor .newClass := by decide +kernel
  have hperm : wording.items.Perm respelled.items := by decide +kernel
  have hread : newClass.parse wording.arguments = .ok ⟨"-Job", some "--root=x", some "-", false, true⟩ :=
    (hparse _ _).mpr ⟨wording, hwording, rfl, by decide +kernel⟩
  have htest : twice.IsFor .newTest := by decide +kernel
  have hkinds : ¬(twice.items.map Item.kind).Nodup := by decide +kernel
  have hknown : ¬newTest.Knows "--base-class=Base" := by
    rintro ⟨phrase, hphrase, hhead⟩
    cases phrase with
    | name text =>
      obtain rfl := Option.some.inj hhead
      exact absurd hphrase (by decide +kernel)
    | joined setting value | apart setting value =>
      obtain rfl := List.mem_singleton.mp hphrase.1
      cases hhead
    | dryRun | verbose | letter => cases hhead
  exact ⟨⟨hwording, hread⟩, ⟨hrespelled, hperm, (hsame _ _ hwording hrespelled hperm _).mp hread⟩,
    by decide +kernel, ⟨htest, hkinds, htwice twice htest hkinds⟩,
    hknown, hunknown ["Job"] "--base-class=Base" [] (by decide +kernel) (by decide +kernel) hknown⟩

/-- A separator is no value. -/
example : newTest.parse ["Job", "--root", "--"] = .error (.fault (.missingValue .root)) := by rfl

end Command

end Scaffold
