import Scaffold.Proofs.Demand
import Scaffold.Proofs.LogEntry
import Scaffold.Proofs.Placement
import Scaffold.Proofs.Program
import Scaffold.Proofs.ReadBack

/-! Events as entries of the log. All that a run names, but for the root, are words, numbers and paths made of words.
What it tells is therefore shown as it is wherever the root is. -/

namespace Scaffold

open Text (IsVisible)

namespace Event

/-- The entry of an event. -/
def entry (event : Event) : LogEntry := ⟨event.level, event.origin, event.text⟩

/-- The line of an event is what is shown of its entry. -/
theorem line_eq (event : Event) : event.line = Text.streamed event.entry.record := rfl

theorem flatMap_line (events : List Event) : events.flatMap line = LogEntry.shown (events.map entry) := by
  rw [LogEntry.shown, List.flatMap_map]
  exact congrArg (List.flatMap · events) (funext line_eq)

/-- The levels of the log. -/
def levels : List Text := ["INFO ", "DEBUG"]

/-- The parts of the program that events come from. -/
def origins : List Text := ["synqgen::license", "synqgen::generator", "synqgen::catalog", "synqgen::emitter"]

theorem level_mem (event : Event) : event.level ∈ levels := by
  cases event <;> exact List.contains_iff_mem.mp rfl

theorem origin_mem (event : Event) : event.origin ∈ origins := by
  cases event <;> exact List.contains_iff_mem.mp rfl

theorem isPlain_entry (event : Event) : event.entry.IsPlain := by
  have hlevels : ∀ level ∈ levels, level.length = 5 ∧ '\n' ∉ level := by decide
  have horigins : ∀ origin ∈ origins, '\n' ∉ origin ∧ ']' ∉ origin := by decide
  obtain ⟨hlength, hlevel⟩ := hlevels _ event.level_mem
  obtain ⟨hnewline, hbracket⟩ := horigins _ event.origin_mem
  exact ⟨hlength, hlevel, hnewline, hbracket⟩

theorem isVisible_head (event : Event) : event.entry.head.IsVisible := by
  have hheads : ∀ level ∈ levels, ∀ origin ∈ origins,
      ("[" ++ level ++ " " ++ origin ++ "] " : Text).all Text.isVisible = true := by decide
  exact .of_all (hheads _ event.level_mem _ event.origin_mem)

/-! ### What entries name -/

theorem named?_wrote (event : Event) : event.entry.named? "Wrote " = event.written? := by
  cases event <;> rfl

theorem named?_rendering (event : Event) : event.entry.named? "Rendering " = event.asked? := by
  cases event <;> rfl

theorem named_wrote (events : List Event) :
    (events.map entry).filterMap (LogEntry.named? "Wrote ") = events.filterMap written? := by
  rw [List.filterMap_map]
  exact congrArg (List.filterMap · events) (funext named?_wrote)

theorem named_rendering (events : List Event) :
    (events.map entry).filterMap (LogEntry.named? "Rendering ") = events.filterMap asked? := by
  rw [List.filterMap_map]
  exact congrArg (List.filterMap · events) (funext named?_rendering)

end Event

/-! ### Visible paths -/

theorem Path.isVisible_join {base path : Text} (hbase : base.IsVisible) (hpath : path.IsVisible) :
    (join base path).IsVisible := by
  have hslash : IsVisible ['/'] := .of_all (by decide)
  rw [join]
  split
  · exact hpath
  · split
    · exact hbase.append hpath
    · exact hbase.append (hslash.append hpath)

theorem Profile.isVisible_testDir {lower : Text} (h : IsWord lower) : (synqClient.testDir lower).IsVisible :=
  Path.isVisible_join (.of_all (by decide)) (.of_isWord h)

theorem ArtifactKind.isVisible_path {name : ClassName} (hname : name.IsParsed) (kind : ArtifactKind) :
    (kind.path .synqClient name).IsVisible := by
  have hinclude : Profile.synqClient.includeDir.IsVisible := .of_all (by decide)
  have hsource : Profile.synqClient.sourceDir.IsVisible := .of_all (by decide)
  have hdirectory : (kind.directory .synqClient name).IsVisible := by
    cases kind with
    | publicHeader | includeShim => exact hinclude
    | publicSource | privateHeader | privateSource => exact hsource
    | testProject | testRegistration | testSource => exact Profile.isVisible_testDir hname.lower_isWord
  have hextension : kind.extension.IsVisible := by
    cases kind <;> exact .of_all (by decide)
  rw [path, fileName_eq]
  exact Path.isVisible_join hdirectory ((IsVisible.of_isWord (stem_isWord hname kind)).append hextension)

/-! ### Visible events -/

variable {event : Event} {layout : Layout} {call : Call} {content : ArtifactKind → Text}

namespace Step

variable {tree later : FileTree} {step : Step} {steps : List Step} {events : List Event}

/-- What a step tells names its path. -/
theorem Does.isVisible_text (h : Does tree step event later) (hpath : step.path.IsVisible) : event.text.IsVisible := by
  cases h with
  | found => exact (hpath.prepend (by decide)).append (.of_all (by decide))
  | made => exact hpath.prepend (by decide)
  | written => exact hpath.prepend (by decide)

theorem Performed.isVisible_text (h : Performed steps events tree later)
    (hpaths : ∀ step ∈ steps, step.path.IsVisible) : ∀ event ∈ events, event.text.IsVisible := by
  induction h with
  | nil => exact fun event hevent => absurd hevent List.not_mem_nil
  | cons hdoes _ ih =>
      rw [List.forall_mem_cons] at hpaths ⊢
      exact ⟨hdoes.isVisible_text hpaths.1, ih hpaths.2⟩

end Step

namespace Call

theorem isVisible_planning (h : call.IsAccepted) : call.planning.text.IsVisible := by
  have hclass : call.name.pascal.IsVisible := .of_isWord (isParsed_name h).pascal_isWord
  cases call with
  | newClass license request =>
      have hshape : (Shape.ofBase (request.baseName.map ClassName.derive)).text.IsVisible := by
        cases hbase : request.baseName with
        | none => exact .of_all (by decide)
        | some baseName =>
            have hword := isWord_of_isIdentifier (isIdentifier_iff.mpr (h.baseName baseName hbase).1)
            exact ((IsVisible.of_isWord hword).prepend (by decide)).append (.of_all (by decide))
      exact ((hclass.prepend (by decide)).append (.of_all (by decide))).append hshape
  | newTest className => exact (hclass.prepend (by decide)).append (.of_all (by decide))

/-- What is told of planning names the class, its base class and templates. -/
theorem isVisible_of_mem_plan (h : event ∈ (call.plan Template.renderer .synqClient).events) :
    event.text.IsVisible := by
  obtain ⟨context, hevents⟩ := call.exists_context Template.renderer .synqClient
  obtain ⟨haccepted, rfl | ⟨kind, rfl⟩⟩ := hevents _ h
  · exact isVisible_planning haccepted
  · have htemplate : kind.templateName.IsVisible := by
      cases kind <;> exact .of_all (by decide)
    exact htemplate.prepend (by decide)

theorem IsStep.isVisible_path {step : Step} (haccepted : call.IsAccepted) (hroot : layout.root.IsVisible)
    (h : IsStep layout call content step) : step.path.IsVisible := by
  cases h with
  | directory hcall =>
      subst hcall
      exact Path.isVisible_join hroot (Profile.isVisible_testDir (isParsed_name haccepted).lower_isWord)
  | @file kind _ => exact Path.isVisible_join hroot (kind.isVisible_path (isParsed_name haccepted))

end Call

end Scaffold
