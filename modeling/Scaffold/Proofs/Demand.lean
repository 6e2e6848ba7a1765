import Scaffold.Plan
import Scaffold.Proofs.Told

/-! Whether a computation tells truly what it asks a renderer for. Renderers that agree wherever a question is told are
not told apart, so that nothing else was asked; and one that agrees up to some question and fails there ends the
computation there, so that this was asked, and behind the others. Both pass on from the parts of a computation to the
whole. -/

namespace Scaffold

/-- The other renderer answers alike whatever the events tell a question for. -/
def Renderer.AgreesOn (render other : Renderer) (events : List Event) : Prop :=
  ∀ template context, .rendering template context ∈ events → other template context = render template context

theorem Renderer.AgreesOn.mono {render other : Renderer} {events some : List Event} (h : render.AgreesOn other events)
    (hsome : some ⊆ events) : render.AgreesOn other some :=
  fun template context hasked => h template context (hsome hasked)

/-- The template that an event tells a question for. -/
def Event.asked? : Event → Option Text
  | .rendering template _ => some template
  | _ => none

/-- What a program tells it asks the renderer for is all that it asks, one after the other. -/
structure TellsAsked {α : Type} (render : Renderer) (program : Renderer → Told α) : Prop where
  congr {other : Renderer} (hagrees : render.AgreesOn other (program render).events) : program other = program render
  stops {other : Renderer} {before after : List Event} {template : Text} {context : Value} {error : Error}
    (hevents : (program render).events = before ++ .rendering template context :: after)
    (hagrees : render.AgreesOn other before) (hfails : other template context = .error error) :
    program other = ⟨before ++ [.rendering template context], .error error⟩

/-- What stands somewhere in two lists one after the other stands in the first or in the second. -/
theorem exists_of_append_eq_append_cons {α : Type} {first second before after : List α} {x : α}
    (h : first ++ second = before ++ x :: after) :
    (∃ rest, first = before ++ x :: rest) ∨ ∃ between, before = first ++ between ∧ second = between ++ x :: after := by
  rcases List.append_eq_append_iff.mp h with ⟨between, hbefore, hsecond⟩ | ⟨rest, hfirst, hcons⟩
  · exact Or.inr ⟨between, hbefore, hsecond⟩
  · rcases List.cons_eq_append_iff.mp hcons with ⟨rfl, hsecond⟩ | ⟨tail, rfl, -⟩
    · exact Or.inr ⟨[], by rw [hfirst, List.append_nil, List.append_nil], hsecond⟩
    · exact Or.inl ⟨tail, hfirst⟩

namespace TellsAsked

variable {α β : Type} {render : Renderer}

/-- Nothing is asked where no question is told and no renderer is known. -/
theorem of_notMem {told : Told α} (h : ∀ template context, .rendering template context ∉ told.events) :
    TellsAsked render fun _ => told where
  congr _ := rfl
  stops hevents := by
    have hmem : .rendering _ _ ∈ told.events := hevents ▸ List.mem_append_right _ List.mem_cons_self
    exact absurd hmem (h _ _)

theorem tell {event : Event} (h : ∀ template context, event ≠ .rendering template context) :
    TellsAsked render fun _ => Told.tell event :=
  of_notMem fun template context hmem => h template context (List.mem_singleton.mp hmem).symm

/-- One question that is told and then asked. -/
theorem ask (template : Text) (context : Value) :
    TellsAsked render fun render => ⟨[.rendering template context], render template context⟩ where
  congr hagrees := by rw [hagrees template context List.mem_cons_self]
  stops hevents _ hfails := by
    obtain ⟨rfl, hasked⟩ | ⟨-, hnil⟩ := List.singleton_eq_append_iff.mp hevents
    · obtain ⟨heq, -⟩ := List.cons.inj hasked
      obtain ⟨rfl, rfl⟩ := Event.rendering.inj heq
      rw [hfails]
      rfl
    · cases hnil

theorem bind {first : Renderer → Told α} {next : Renderer → α → Told β} (hfirst : TellsAsked render first)
    (hnext : ∀ value, TellsAsked render fun render => next render value) :
    TellsAsked render fun render => first render >>= next render where
  congr {other} hagrees := by
    cases hresult : (first render).result with
    | error error =>
        rw [Told.bind_of_error hresult] at hagrees ⊢
        rw [hfirst.congr hagrees, Told.bind_of_error hresult]
    | ok value =>
        rw [Told.bind_of_ok hresult] at hagrees ⊢
        rw [hfirst.congr (hagrees.mono (List.subset_append_left _ _)), Told.bind_of_ok hresult,
          (hnext value).congr (hagrees.mono (List.subset_append_right _ _))]
  stops {other before after template context error} hevents hagrees hfails := by
    have hstops : ∀ rest, (first render).events = before ++ .rendering template context :: rest →
        first other >>= next other = ⟨before ++ [.rendering template context], .error error⟩ := by
      intro rest hsplit
      rw [hfirst.stops hsplit hagrees hfails]
      exact Told.bind_of_error rfl _
    cases hresult : (first render).result with
    | error error =>
        rw [Told.bind_of_error hresult] at hevents
        exact hstops after hevents
    | ok value =>
        rw [Told.bind_of_ok hresult] at hevents
        rcases exists_of_append_eq_append_cons hevents with ⟨rest, hsplit⟩ | ⟨between, rfl, hsplit⟩
        · exact hstops rest hsplit
        · -- All that the first part asks is ahead of this question, so that it ends as before.
          rw [hfirst.congr (hagrees.mono (List.subset_append_left _ _)), Told.bind_of_ok hresult,
            (hnext value).stops hsplit (hagrees.mono (List.subset_append_right _ _)) hfails, List.append_assoc]

end TellsAsked

/-! ### Planning -/

section Planning

variable (render : Renderer) (profile : Profile)

theorem renderKinds_cons (license : Option License) (name : ClassName) (context : Value) (kind : ArtifactKind)
    (kinds : List ArtifactKind) :
    renderKinds render profile license name context (kind :: kinds) =
      (⟨[.rendering kind.templateName context], render kind.templateName context⟩ : Told Text) >>= fun body =>
        renderKinds render profile license name context kinds >>= fun rest =>
          pure (⟨kind, kind.path profile name, kind.content license body⟩ :: rest) := by
  rw [← Told.tell_bind_ofExcept, Told.bind_assoc, renderKinds]

theorem tellsAsked_renderKinds (license : Option License) (name : ClassName) (context : Value)
    (kinds : List ArtifactKind) :
    TellsAsked render fun render => renderKinds render profile license name context kinds := by
  induction kinds with
  | nil => exact .of_notMem fun _ _ => List.not_mem_nil
  | cons kind kinds ih =>
      simp only [renderKinds_cons]
      exact (TellsAsked.ask _ _).bind fun body => ih.bind fun rest => .of_notMem fun _ _ => List.not_mem_nil

theorem tellsAsked_planClass (license : License) (request : ClassRequest) :
    TellsAsked render fun render => planClass render profile license request := by
  refine TellsAsked.bind (.of_notMem fun _ _ => List.not_mem_nil) fun ⟨name, shape⟩ => ?_
  have htold : TellsAsked render fun _ => Told.tell (.planningClass name shape) := .tell fun _ _ => nofun
  exact htold.bind fun _ => tellsAsked_renderKinds ..

theorem tellsAsked_planTest (className : Text) :
    TellsAsked render fun render => planTest render profile className := by
  refine TellsAsked.bind (.of_notMem fun _ _ => List.not_mem_nil) fun name => ?_
  have htold : TellsAsked render fun _ => Told.tell (.planningTest name) := .tell fun _ _ => nofun
  exact htold.bind fun _ => tellsAsked_renderKinds ..

end Planning

end Scaffold
