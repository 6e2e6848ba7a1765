import Scaffold.Generate
import Scaffold.Proofs.Demand
import Scaffold.Proofs.Name.Acceptance

/-! How planning goes with a renderer that may fail as it likes. A request that is not accepted is refused
before the renderer is asked for anything. For an accepted one the renderer is asked for one template after
the other, always in the same context, up to the first that fails; nothing else is asked of it, and if the
plan fails no file is touched. -/

namespace Scaffold

/-- The renderer is asked for the file of a kind. -/
def ArtifactKind.asked (context : Value) (kind : ArtifactKind) : Event := .rendering kind.templateName context

/-- The renderer is asked for files of the given kinds in order, up to and including the first that fails. -/
inductive AskedInOrder (render : Renderer) (context : Value) (file : ArtifactKind → Text → Artifact)
    (kinds : List ArtifactKind) : Told (List Artifact) → Prop
  | all (body : ArtifactKind → Text) (h : ∀ kind ∈ kinds, render kind.templateName context = .ok (body kind)) :
      AskedInOrder render context file kinds
        ⟨kinds.map (·.asked context), .ok (kinds.map fun kind => file kind (body kind))⟩
  | stopped (before : List ArtifactKind) {after : List ArtifactKind} {kind : ArtifactKind} {error : Error}
      (hkinds : kinds = before ++ kind :: after)
      (hbefore : ∀ earlier ∈ before, ∃ body, render earlier.templateName context = .ok body)
      (h : render kind.templateName context = .error error) :
      AskedInOrder render context file kinds ⟨(before ++ [kind]).map (·.asked context), .error error⟩

/-- The context tells the class, its base class, if it has one, and which of the two shapes that makes. -/
structure Value.Carries (context : Value) (name : ClassName) (base? : Option ClassName) : Prop where
  field_class : context.field? "class" = some (.ofClassName name)
  field_base : context.field? "base" = some ((base?.map Value.ofClassName).getD .null)
  field_variant : context.field? "variant" = some (.text (if base?.isSome then "derived" else "root"))

theorem carries_renderContext (profile : Profile) (name : ClassName) (base? : Option ClassName) :
    (renderContext profile name (.ofBase base?)).Carries name base? := by
  cases base? with
  | none => exact ⟨rfl, rfl, rfl⟩
  | some base => exact ⟨rfl, rfl, rfl⟩

section Kinds

variable (render : Renderer) (profile : Profile) (license : Option License) (name : ClassName) (context : Value)

/-- The file of a kind with a rendered body. -/
def ArtifactKind.filled (kind : ArtifactKind) (body : Text) : Artifact :=
  ⟨kind, kind.path profile name, kind.content license body⟩

variable {render} {kind : ArtifactKind} (kinds : List ArtifactKind)

theorem renderKinds_cons_of_error {error : Error} (h : render kind.templateName context = .error error) :
    renderKinds render profile license name context (kind :: kinds) = ⟨[kind.asked context], .error error⟩ := by
  rw [renderKinds_cons, Told.bind_of_error h]
  rfl

theorem renderKinds_cons_of_ok {body : Text} (h : render kind.templateName context = .ok body) :
    renderKinds render profile license name context (kind :: kinds) =
      ⟨kind.asked context :: (renderKinds render profile license name context kinds).events,
        (renderKinds render profile license name context kinds).result.map
          (kind.filled profile license name body :: ·)⟩ := by
  rw [renderKinds_cons, Told.bind_of_ok h]
  cases hrest : (renderKinds render profile license name context kinds).result with
  | error error =>
      rw [Told.bind_of_error hrest]
      rfl
  | ok rest =>
      rw [Told.bind_of_ok hrest]
      exact congrArg (Told.mk · _) (congrArg (kind.asked context :: ·) (List.append_nil _))

theorem askedInOrder_renderKinds : AskedInOrder render context (ArtifactKind.filled profile license name) kinds
    (renderKinds render profile license name context kinds) := by
  induction kinds with
  | nil => exact .all (fun _ => []) fun kind h => absurd h List.not_mem_nil
  | cons kind kinds ih =>
      cases hrender : render kind.templateName context with
      | error error =>
          rw [renderKinds_cons_of_error profile license name context kinds hrender]
          exact .stopped [] rfl (fun _ h => absurd h List.not_mem_nil) hrender
      | ok text =>
          rw [renderKinds_cons_of_ok profile license name context kinds hrender]
          generalize renderKinds render profile license name context kinds = rest at ih
          cases ih with
          | @all body hbody =>
              -- A kind that comes again has the text it had before.
              have hsame : ∀ later ∈ kinds, (if later = kind then text else body later) = body later := by
                intro later hlater
                split
                · subst later
                  exact Except.ok.inj (hrender.symm.trans (hbody kind hlater))
                · rfl
              have hmap : kinds.map (fun later => later.filled profile license name (body later)) =
                  kinds.map fun later =>
                    later.filled profile license name (if later = kind then text else body later) :=
                List.map_congr_left fun later hlater => by rw [hsame later hlater]
              have hbody' : ∀ later ∈ kind :: kinds, render later.templateName context =
                  .ok (if later = kind then text else body later) := by
                intro later hlater
                rcases List.mem_cons.mp hlater with rfl | hlater
                · rw [if_pos rfl, hrender]
                · rw [hsame later hlater, hbody later hlater]
              have hall : AskedInOrder render context (ArtifactKind.filled profile license name) (kind :: kinds) _ :=
                .all _ hbody'
              simpa only [List.map_cons, if_true, Except.map, hmap] using hall
          | @stopped before after failing error hkinds hbefore hfails =>
              refine .stopped (kind :: before) (congrArg (kind :: ·) hkinds) ?_ hfails
              intro earlier hearlier
              rcases List.mem_cons.mp hearlier with rfl | hearlier
              · exact ⟨text, hrender⟩
              · exact hbefore earlier hearlier

end Kinds

/-! ### Requests -/

variable (render : Renderer) (profile : Profile) (license : License) {request : ClassRequest} {className : Text}

theorem planClass_of_isAcceptable (h : request.IsAcceptable) :
    let name := ClassName.derive request.className
    let shape := Shape.ofBase (request.baseName.map ClassName.derive)
    planClass render profile license request =
      ⟨.planningClass name shape :: (renderClass render profile license name shape).events,
        (renderClass render profile license name shape).result⟩ := by
  rw [planClass, h.check]
  rfl

theorem planClass_of_isRefused {fault : NameFault} (h : request.IsRefused fault) :
    planClass render profile license request = ⟨[], .error (.validation fault)⟩ := by
  rw [planClass, h.check]
  rfl

theorem planTest_of_isPlainName (h : IsPlainName className) :
    let name := ClassName.derive className
    planTest render profile className =
      ⟨.planningTest name :: (renderTest render profile name).events, (renderTest render profile name).result⟩ := by
  rw [planTest, ClassName.parse_of_isPlainName h]
  rfl

theorem planTest_of_not_isPlainName (h : ¬IsPlainName className) :
    planTest render profile className = ⟨[], .error (.validation (.ofText className))⟩ := by
  rw [planTest, ClassName.parse_of_not_isPlainName h]
  rfl

theorem ClassRequest.IsRefused.not_isAcceptable {fault : NameFault} (h : request.IsRefused fault) :
    ¬request.IsAcceptable := by
  intro hacceptable
  exact nomatch h.check.symm.trans hacceptable.check

/-- A plan that fails is all that is done. -/
theorem Told.change_of_error {α β : Type} {told : Told α} {error : Error} (h : told.result = .error error)
    (next : α → FileTree → Outcome β) (tree : FileTree) :
    told.change next tree = ⟨⟨told.events, .error error⟩, tree⟩ := by
  rw [Told.change, h]

theorem Told.change_of_ok {α β : Type} {told : Told α} {value : α} (h : told.result = .ok value)
    (next : α → FileTree → Outcome β) (tree : FileTree) :
    told.change next tree = (next value tree).behind told.events := by
  rw [Told.change, h]

theorem planClass_congr {other : Renderer}
    (h : ∀ template context, .rendering template context ∈ (planClass render profile license request).events →
      other template context = render template context) :
    planClass other profile license request = planClass render profile license request :=
  (tellsAsked_planClass render profile license request).congr h

theorem planTest_congr {other : Renderer}
    (h : ∀ template context, .rendering template context ∈ (planTest render profile className).events →
      other template context = render template context) :
    planTest other profile className = planTest render profile className :=
  (tellsAsked_planTest render profile className).congr h

/-- Whatever the renderer does: a request is refused, the class before its base, without a question to the
renderer, or its names are in order and the renderer is asked for the files in order, in one context that
carries the class, its base and its shape; the first failure is the result, else every file with the text of
the renderer, behind the preamble if it is a licensed file of a class. Nothing else is asked of the renderer,
and a plan that fails leaves the tree alone. -/
theorem asked_in_order_or_refused (render : Renderer) (profile : Profile) (license : License) (layout : Layout)
    (request : ClassRequest) (className : Text) (tree : FileTree) :
    let classPlan := planClass render profile license request
    let name := ClassName.derive request.className
    let base? := request.baseName.map ClassName.derive
    let testPlan := planTest render profile className
    let testName := ClassName.derive className
    (request.IsAcceptable ∧
        (∃ context asked, context.Carries name base? ∧
          AskedInOrder render context
            (fun kind body => ⟨kind, kind.path profile name, if kind.isLicensed then license.text ++ body else body⟩)
            ArtifactKind.classSet asked ∧
          classPlan = ⟨.planningClass name (.ofBase base?) :: asked.events, asked.result⟩) ∨
      ¬request.IsAcceptable ∧
        ∃ fault, request.IsRefused fault ∧ classPlan = ⟨[], .error (.validation fault)⟩) ∧
    (IsPlainName className ∧
        (∃ context asked, context.Carries testName none ∧
          AskedInOrder render context (fun kind body => ⟨kind, kind.path profile testName, body⟩)
            ArtifactKind.testSet asked ∧
          testPlan = ⟨.planningTest testName :: asked.events, asked.result⟩) ∨
      ¬IsPlainName className ∧ testPlan = ⟨[], .error (.validation (.ofText className))⟩) ∧
    (∀ other : Renderer,
      ((∀ template context, .rendering template context ∈ classPlan.events →
          other template context = render template context) →
        planClass other profile license request = classPlan) ∧
      ((∀ template context, .rendering template context ∈ testPlan.events →
          other template context = render template context) →
        planTest other profile className = testPlan)) ∧
    (∀ error,
      (classPlan.result = .error error →
        generateClass render profile license layout request tree = ⟨⟨classPlan.events, .error error⟩, tree⟩) ∧
      (testPlan.result = .error error →
        generateTest render profile layout className tree = ⟨⟨testPlan.events, .error error⟩, tree⟩)) := by
  intro classPlan name base? testPlan testName
  refine ⟨?_, ?_, fun other => ⟨planClass_congr render profile license, planTest_congr render profile⟩,
    fun error => ⟨fun h => Told.change_of_error h _ tree, fun h => Told.change_of_error h _ tree⟩⟩
  · rcases request.isAcceptable_or_isRefused with haccept | ⟨fault, hrefused⟩
    · exact Or.inl ⟨haccept, _, _, carries_renderContext profile name base?,
        askedInOrder_renderKinds profile (some license) name _ ArtifactKind.classSet,
        planClass_of_isAcceptable render profile license haccept⟩
    · exact Or.inr ⟨hrefused.not_isAcceptable, fault, hrefused,
        planClass_of_isRefused render profile license hrefused⟩
  · by_cases hname : IsPlainName className
    · exact Or.inl ⟨hname, _, _, carries_renderContext profile testName none,
        askedInOrder_renderKinds profile none testName _ ArtifactKind.testSet,
        planTest_of_isPlainName render profile hname⟩
    · exact Or.inr ⟨hname, planTest_of_not_isPlainName render profile hname⟩

/-- A renderer that fails on the public source of a class ends the request there, and the tree stays empty. -/
theorem asked_in_order_failing_source :
    let render : Renderer := fun template _ =>
      if template = "class/public_source.cpp" then .error (.layout (.reported "no source")) else .ok template
    let request : ClassRequest := ⟨"JobQueue", some "Job"⟩
    (planClass render .synqClient ⟨2024, []⟩ request).result = .error (.layout (.reported "no source")) ∧
    (generateClass render .synqClient ⟨2024, []⟩ ⟨"/r"⟩ request ⟨[], []⟩).tree = ⟨[], []⟩ := by
  intro render request
  have hplan : (planClass render .synqClient ⟨2024, []⟩ request).result =
      .error (.layout (.reported "no source")) := rfl
  have hall := asked_in_order_or_refused render .synqClient ⟨2024, []⟩ ⟨"/r"⟩ request [] ⟨[], []⟩
  have hgenerate := (hall.2.2.2 _).1 hplan
  exact ⟨hplan, by rw [hgenerate]⟩

end Scaffold
