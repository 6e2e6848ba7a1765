import Mathlib.Data.List.Basic
import Scaffold.Event
import Scaffold.Proofs.Text.Lines
import Scaffold.Proofs.Text.Visible

/-! Entries of a log. In front of the text of an entry stand its level and its origin in brackets, and four blanks in
front of each further line of it. Entries that are written one behind the other can therefore be read back, whatever
their texts are: a line that does not start with blanks starts an entry. The log shows what is visible of the entries,
which is all of them if no control character but blank ones is in them. -/

namespace Scaffold

/-- An entry of a log. The level is padded to five characters. -/
structure LogEntry where
  level : Text
  origin : Text
  text : Text

/-- Further lines are set in by four blanks. -/
def Text.setIn (t : Text) : Text := t.flatMap fun c => if c = '\n' then "\n    " else [c]

namespace LogEntry

/-- What stands in front of the text. -/
def head (entry : LogEntry) : Text := "[" ++ entry.level ++ " " ++ entry.origin ++ "] "

/-- The entry as it is written. -/
def record (entry : LogEntry) : Text := entry.head ++ entry.text.setIn ++ ['\n']

/-- The log that shows the entries, each for itself. -/
def shown (entries : List LogEntry) : Text := entries.flatMap fun entry => Text.streamed entry.record

/-- What the entry names behind the words that its text starts with. -/
def named? (words : Text) (entry : LogEntry) : Option Text :=
  if words.isPrefixOf entry.text then some (entry.text.drop words.length) else none

/-! ### Reading a log -/

/-- The entry that a line starts. -/
def ofLine? (line : Text) : Option LogEntry :=
  match line with
  | '[' :: inside =>
    match inside.drop 5 with
    | ' ' :: behind =>
      match behind.dropWhile (· ≠ ']') with
      | ']' :: ' ' :: text => some ⟨inside.take 5, behind.takeWhile (· ≠ ']'), text⟩
      | _ => none
    | _ => none
  | _ => none

/-- The lines that go on with an entry before them, and the entries behind these lines. -/
def ofLines? : List Text → Option (List Text × List LogEntry)
  | [] => some ([], [])
  | line :: lines => do
    let (more, entries) ← ofLines? lines
    if ("    " : Text).isPrefixOf line then some (line.drop 4 :: more, entries)
    else
      let entry ← ofLine? line
      some ([], { entry with text := Text.joinWith '\n' (entry.text :: more) } :: entries)

/-- The entries of a log, all of whose lines are ended. -/
def ofLog? (log : Text) : Option (List LogEntry) :=
  if (Text.cut '\n' log).getLast? = some [] then
    match ofLines? (Text.cut '\n' log).dropLast with
    | some ([], entries) => some entries
    | _ => none
  else none

/-! ### What is written can be read -/

/-- A further line of an entry. -/
def further (line : Text) : Text := "    " ++ line

/-- The lines of an entry. -/
def lines (entry : LogEntry) : List Text :=
  match Text.cut '\n' entry.text with
  | [] => []
  | first :: more => (entry.head ++ first) :: more.map further

/-- The head of the entry can be told from what follows. -/
structure IsPlain (entry : LogEntry) : Prop where
  level_length : entry.level.length = 5
  newline_notMem_level : '\n' ∉ entry.level
  newline_notMem_origin : '\n' ∉ entry.origin
  bracket_notMem_origin : ']' ∉ entry.origin

end LogEntry

open LogEntry (further)

theorem Text.setIn_concat {t first : Text} {more : List Text} (h : cut '\n' t = first :: more) :
    t.setIn ++ ['\n'] = ofLines (first :: more.map further) := by
  induction t generalizing first more with
  | nil =>
      obtain ⟨rfl, rfl⟩ := List.cons.inj h
      rfl
  | cons c cs ih =>
      by_cases hc : c = '\n'
      · subst hc
        rw [cut_cons_self] at h
        obtain ⟨rfl, rfl⟩ := List.cons.inj h
        obtain ⟨second, rest, hcut⟩ := List.exists_cons_of_ne_nil (cut_ne_nil '\n' cs)
        calc setIn ('\n' :: cs) ++ ['\n'] = "\n    " ++ (setIn cs ++ ['\n']) := rfl
          _ = "\n    " ++ ofLines (second :: rest.map further) := by rw [ih hcut]
          _ = ofLines ([] :: (cut '\n' cs).map further) := by rw [hcut]; rfl
      · obtain ⟨piece, pieces, hcs, hcut⟩ := cut_cons_of_ne hc cs
        rw [hcut] at h
        obtain ⟨rfl, rfl⟩ := List.cons.inj h
        have hcons : setIn (c :: cs) = c :: setIn cs := by
          rw [setIn, List.flatMap_cons, if_neg hc]
          rfl
        rw [hcons, List.cons_append, ih hcs]
        rfl

namespace LogEntry

variable {entry : LogEntry} {entries : List LogEntry}

theorem record_eq (entry : LogEntry) : entry.record = Text.ofLines entry.lines := by
  obtain ⟨first, more, hcut⟩ := List.exists_cons_of_ne_nil (Text.cut_ne_nil '\n' entry.text)
  rw [record, lines, hcut, List.append_assoc, Text.setIn_concat hcut]
  simp only [Text.ofLines, List.flatMap_cons, List.append_assoc]

theorem newline_notMem_lines (h : entry.IsPlain) : ∀ line ∈ entry.lines, '\n' ∉ line := by
  obtain ⟨first, more, hcut⟩ := List.exists_cons_of_ne_nil (Text.cut_ne_nil '\n' entry.text)
  have hpieces : ∀ piece ∈ first :: more, '\n' ∉ piece := fun piece hmem => Text.notMem_of_mem_cut (hcut ▸ hmem)
  rw [List.forall_mem_cons] at hpieces
  have hblanks : '\n' ∉ ("    " : Text) := by decide
  have hhead : '\n' ∉ entry.head := by
    simp [head, h.newline_notMem_level, h.newline_notMem_origin]
  rw [lines, hcut]
  intro line hline
  rcases List.mem_cons.mp hline with rfl | hmore
  · rw [List.mem_append, not_or]
    exact ⟨hhead, hpieces.1⟩
  · obtain ⟨piece, hpiece, rfl⟩ := List.mem_map.mp hmore
    rw [further, List.mem_append, not_or]
    exact ⟨hblanks, hpieces.2 piece hpiece⟩

theorem ofLine?_head_append (h : entry.IsPlain) (text : Text) :
    ofLine? (entry.head ++ text) = some { entry with text } := by
  have hdrop : (entry.level ++ ' ' :: (entry.origin ++ ']' :: ' ' :: text)).drop 5 =
      ' ' :: (entry.origin ++ ']' :: ' ' :: text) := List.drop_left' h.level_length
  have htake : (entry.level ++ ' ' :: (entry.origin ++ ']' :: ' ' :: text)).take 5 = entry.level :=
    List.take_left' h.level_length
  have hline : entry.head ++ text = '[' :: (entry.level ++ ' ' :: (entry.origin ++ ']' :: ' ' :: text)) := by
    simp [head]
  have horigin : ∀ c ∈ entry.origin, decide (c ≠ ']') = true := by
    intro c hc
    exact decide_eq_true fun heq => h.bracket_notMem_origin (heq ▸ hc)
  rw [hline, ofLine?]
  simp only [hdrop, htake, List.dropWhile_append_of_pos horigin, List.takeWhile_append_of_pos horigin]
  simp

theorem ofLines?_further {lines more : List Text} {entries : List LogEntry} (h : ofLines? lines = some ([], entries)) :
    ofLines? (more.map further ++ lines) = some (more, entries) := by
  induction more with
  | nil => exact h
  | cons line more ih =>
      rw [List.map_cons, List.cons_append, ofLines?, ih]
      rfl

theorem ofLines?_lines_append (h : entry.IsPlain) {lines : List Text} (hlines : ofLines? lines = some ([], entries)) :
    ofLines? (entry.lines ++ lines) = some ([], entry :: entries) := by
  obtain ⟨first, more, hcut⟩ := List.exists_cons_of_ne_nil (Text.cut_ne_nil '\n' entry.text)
  have htext : Text.joinWith '\n' (first :: more) = entry.text := hcut ▸ Text.joinWith_cut '\n' entry.text
  have hstart : ("    " : Text).isPrefixOf (entry.head ++ first) = false := rfl
  rw [LogEntry.lines, hcut, List.cons_append, ofLines?, ofLines?_further hlines, ofLine?_head_append h, hstart]
  simp only [Option.bind_eq_bind, Option.bind_some, Bool.false_eq_true, if_false, htext]

/-- Entries that are written one behind the other can be read back. -/
theorem ofLog?_records (h : ∀ entry ∈ entries, entry.IsPlain) : ofLog? (entries.flatMap record) = some entries := by
  have hlines : ofLines? (entries.flatMap lines) = some ([], entries) := by
    induction entries with
    | nil => rfl
    | cons entry entries ih =>
        rw [List.forall_mem_cons] at h
        exact ofLines?_lines_append h.1 (ih h.2)
  have hlog : entries.flatMap record = Text.ofLines (entries.flatMap lines) := by
    rw [Text.ofLines, List.flatMap_assoc]
    exact congrArg (List.flatMap · entries) (funext record_eq)
  have hcut : Text.cut '\n' (entries.flatMap record) = entries.flatMap lines ++ [[]] := by
    rw [hlog, Text.cut_ofLines]
    intro line hline
    obtain ⟨entry, hentry, hmem⟩ := List.mem_flatMap.mp hline
    exact newline_notMem_lines (h entry hentry) line hmem
  rw [ofLog?, hcut, List.getLast?_concat, if_pos rfl, List.dropLast_concat, hlines]

example : ofLog? "[DEBUG a::b] Rendering t\n[INFO  a::c] Wrote /r\n    s\n" =
    some [⟨"DEBUG", "a::b", "Rendering t"⟩, ⟨"INFO ", "a::c", "Wrote /r\ns"⟩] := by rfl

end LogEntry

/-! ### What is shown of a log -/

theorem Text.IsVisible.setIn {t : Text} (ht : t.IsVisible) : t.setIn.IsVisible := by
  have hbreak : Text.IsVisible "\n    " := .of_all (by decide)
  intro c hc
  obtain ⟨d, hd, hshown⟩ := List.mem_flatMap.mp hc
  split at hshown
  · exact hbreak c hshown
  · obtain rfl := List.mem_singleton.mp hshown
    exact ht c hd

namespace LogEntry

variable {entry : LogEntry} {entries : List LogEntry}

theorem isVisible_record (hhead : entry.head.IsVisible) (htext : entry.text.IsVisible) : entry.record.IsVisible :=
  (hhead.append htext.setIn).append (.of_all (by decide))

theorem isVisible_shown (entries : List LogEntry) : (shown entries).IsVisible := by
  intro c hc
  obtain ⟨entry, -, hshown⟩ := List.mem_flatMap.mp hc
  exact Text.isVisible_streamed entry.record c hshown

/-- What is shown leaves out parts of the entries at most. -/
theorem shown_sublist (entries : List LogEntry) : (shown entries).Sublist (entries.flatMap record) := by
  induction entries with
  | nil => exact List.Sublist.refl _
  | cons entry entries ih =>
      simp only [shown, List.flatMap_cons] at ih ⊢
      exact (Text.streamed_sublist entry.record).append ih

theorem shown_of_isVisible (h : ∀ entry ∈ entries, entry.record.IsVisible) :
    shown entries = entries.flatMap record :=
  List.flatMap_congr fun entry hentry => Text.streamed_of_isVisible (h entry hentry)

/-- Entries that are visible can be read back from what is shown of them. -/
theorem ofLog?_shown (hplain : ∀ entry ∈ entries, entry.IsPlain)
    (hvisible : ∀ entry ∈ entries, entry.record.IsVisible) : ofLog? (shown entries) = some entries := by
  rw [shown_of_isVisible hvisible, ofLog?_records hplain]

end LogEntry

end Scaffold
