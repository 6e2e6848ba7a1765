import Scaffold.Proofs.Content
import Scaffold.Proofs.Template.Filling
import Scaffold.Proofs.Told

/-! What the templates render to. Each template is rendered once, by evaluation, in a context whose values
are single marks that occur in no template; since rendering commutes with filling in, the text for any
names and any conventions is that text with the marks filled in, which is the written-down content of the
file. -/

namespace Scaffold

/-- The source of the template of a file. -/
def ArtifactKind.source : ArtifactKind → String
  | .publicHeader => Source.publicHeader
  | .includeShim => Source.includeShim
  | .publicSource => Source.publicSource
  | .privateHeader => Source.privateHeader
  | .privateSource => Source.privateSource
  | .testProject => Source.testProject
  | .testRegistration => Source.testRegistration
  | .testSource => Source.testSource

theorem toList_beq_toList (s t : String) : (s.toList == t.toList) = decide (s = t) := by
  rw [Bool.eq_iff_iff, beq_iff_eq, decide_eq_true_iff, String.toList_inj]

theorem toList_of_eq_ofList {s : String} {cs : List Char} (h : s = String.ofList cs) : s.toList = cs := by
  rw [h, String.toList_ofList]

theorem Source.find?_templateName (kind : ArtifactKind) :
    Source.find? kind.templateName = some kind.source.toList := by
  have hlookup : Source.all.lookup kind.templateName = some kind.source := by
    cases kind <;> delta ArtifactKind.templateName <;>
      simp only [Source.all, List.lookup_cons, toList_beq_toList] <;>
      simp only [String.reduceEq, decide_true, decide_false] <;> rfl
  rw [Source.find?, hlookup, Option.map_some]

theorem Source.find?_license : Source.find? "license" = some Source.license.toList := by
  have hlookup : Source.all.lookup ("license" : String).toList = some Source.license := by
    simp only [Source.all, List.lookup_cons, toList_beq_toList, decide_true]
  rw [Source.find?, hlookup, Option.map_some]

/-! ### Marks -/

namespace Marks

/-- Conventions whose texts are marks. -/
def profile : Profile where
  nameSpace := ['\ue000']
  exportMacro := ['\ue001']
  globalHeader := ['\ue002']
  rootBase := ['\ue003']
  guardPrefix := ['\ue004']
  libraryDir := []
  testsDir := []
  testRegistrationMacro := ['\ue005']
  copyrightHolder := ['\ue006']

/-- A name whose spellings are marks. -/
def name : ClassName := ⟨['\ue007'], ['\ue008'], ['\ue009']⟩

/-- The name of a base class whose spellings are marks. -/
def base : ClassName := ⟨['\ue00a'], ['\ue00b'], []⟩

/-- A shape with marks for its base class. -/
def shape (shape : Shape) : Shape := shape.choose .root fun _ => .derived base

/-- What the marks stand for; the year has the last of them. -/
def fill (profile : Profile) (name base : ClassName) (year : Text) : Char → Text
  | '\ue000' => profile.nameSpace
  | '\ue001' => profile.exportMacro
  | '\ue002' => profile.globalHeader
  | '\ue003' => profile.rootBase
  | '\ue004' => profile.guardPrefix
  | '\ue005' => profile.testRegistrationMacro
  | '\ue006' => profile.copyrightHolder
  | '\ue007' => name.pascal
  | '\ue008' => name.lower
  | '\ue009' => name.upper
  | '\ue00a' => base.pascal
  | '\ue00b' => base.lower
  | '\ue00c' => year
  | c => [c]

theorem fill_of_lt (profile : Profile) (name base : ClassName) (year : Text) (c : Char) (hc : c.toNat < 128) :
    fill profile name base year c = [c] := by
  unfold fill
  split
  all_goals first | rfl | exact absurd hc (by decide)

theorem flatMap_toList (profile : Profile) (name base : ClassName) (year : Text) (s : String)
    (hs : s.toList.all (fun c => decide (c.toNat < 128)) = true) :
    s.toList.flatMap (fill profile name base year) = s.toList := by
  apply Text.flatMap_of_isAscii (fill_of_lt profile name base year)
  intro c hc
  exact of_decide_eq_true (List.all_eq_true.mp hs c hc)

theorem flatMap_ofLines (profile : Profile) (name base : ClassName) (year : Text) (lines : List Text) :
    (Text.ofLines lines).flatMap (fill profile name base year) =
      Text.ofLines (lines.map (·.flatMap (fill profile name base year))) := by
  have hfeed : ['\n'].flatMap (fill profile name base year) = ['\n'] := rfl
  simp only [Text.ofLines, List.flatMap_assoc, List.flatMap_append, hfeed, List.flatMap_map]

theorem tag_shape (s : Shape) : (shape s).tag = s.tag := by
  cases s <;> rfl

/-- The marks in the lines of a file, filled in. -/
theorem map_lines (profile : Profile) (name : ClassName) (shape : Shape) (year : Text) (kind : ArtifactKind) :
    (kind.lines Marks.profile Marks.name (Marks.shape shape)).map
      (·.flatMap (fill profile name (shape.choose name id) year)) = kind.lines profile name shape := by
  cases kind
  all_goals cases shape
  all_goals
    simp (disch := decide +kernel) only [-String.reduceToList, ArtifactKind.lines, Content.publicHeader,
      Content.includeShim, Content.publicSource, Content.privateHeader, Content.privateSource,
      Content.testProject, Content.testRegistration, Content.testSource, ClassName.guard,
      ClassName.privateGuard, ClassName.privateType, Marks.shape, Shape.choose_root, Shape.choose_derived,
      List.map_cons, List.map_nil, List.map_append, List.flatMap_append, flatMap_toList, Marks.profile,
      Marks.name, Marks.base, List.flatMap_singleton, fill, id_eq]

/-- The marks in the lines of the preamble, filled in. -/
theorem map_license (profile : Profile) (name base : ClassName) (year : Text) :
    (Content.license Marks.profile ['\ue00c']).map (·.flatMap (fill profile name base year)) =
      Content.license profile year := by
  simp (disch := decide +kernel) only [-String.reduceToList, Content.license, List.map_cons, List.map_nil,
    List.flatMap_append, flatMap_toList, Marks.profile, List.flatMap_singleton, fill]

/-- The references of the class templates, those to a base class only where there is one. -/
def shown (shape : Shape) : List Reference :=
  [⟨"profile", ["namespace"]⟩, ⟨"profile", ["export_macro"]⟩, ⟨"profile", ["global_header"]⟩,
   ⟨"profile", ["root_base"]⟩, ⟨"profile", ["guard_prefix"]⟩, ⟨"profile", ["test_registration_macro"]⟩,
   ⟨"class", ["pascal"]⟩, ⟨"class", ["lower"]⟩, ⟨"class", ["upper"]⟩] ++
  shape.choose [] (fun _ => [⟨"base", ["pascal"]⟩, ⟨"base", ["lower"]⟩])

/-- The marks in the context of a class and what they stand for. -/
def filling (profile : Profile) (name : ClassName) (shape : Shape) : Filling where
  fill := fill profile name (shape.choose name id) []
  before := renderContext Marks.profile Marks.name (Marks.shape shape)
  after := renderContext profile name shape
  shown := shown (Marks.shape shape)
  tested := [⟨"variant", []⟩]
  fill_of_lt := fill_of_lt profile name _ _
  shown_filled := by
    cases shape
    all_goals
      simp only [-String.reduceToList, shown, Shape.choose_root, Shape.choose_derived, List.append_nil,
        List.cons_append, List.nil_append, List.forall_mem_cons, Reference.value?, Value.field?, renderContext,
        Value.ofProfile, Value.ofClassName, List.lookup_cons, toList_beq_toList, List.foldl_cons, List.foldl_nil,
        String.reduceEq, decide_true, decide_false, Option.bind_some, Option.some.injEq, Value.text.injEq,
        exists_eq_left', Option.map_some, Value.alone, Marks.profile, Marks.name, Marks.base, Marks.shape,
        Shape.base?, List.flatMap_singleton, fill, id_eq, List.not_mem_nil, false_implies, implies_true, and_self]
  tested_kept := by
    simp only [-String.reduceToList, List.mem_singleton, forall_eq, Reference.value?, Value.field?,
      renderContext, List.lookup_cons, toList_beq_toList, String.reduceEq, decide_true, decide_false,
      List.foldl_nil, Option.some.injEq, exists_eq_left', tag_shape]

/-- The context of the preamble with marks for its values. -/
def licenseContext : Value := .map [("profile", .ofProfile profile), ("year", .text ['\ue00c'])]

/-- The marks in the context of the preamble and what they stand for. -/
def licenseFilling (profile : Profile) (year : Int) : Filling where
  fill := fill profile base base (Text.ofInt year)
  before := licenseContext
  after := License.context profile year
  shown := [⟨"year", []⟩, ⟨"profile", ["namespace"]⟩, ⟨"profile", ["copyright_holder"]⟩]
  tested := []
  fill_of_lt := fill_of_lt profile _ _ _
  shown_filled := by
    simp only [-String.reduceToList, licenseContext, List.forall_mem_cons, Reference.value?, Value.field?,
      License.context, Value.ofProfile, List.lookup_cons, toList_beq_toList, List.foldl_cons, List.foldl_nil,
      String.reduceEq, decide_true, decide_false, Option.bind_some, Option.some.injEq, Value.text.injEq,
      exists_eq_left', Option.map_some, Value.alone, Value.inside, Marks.profile, List.flatMap_singleton, fill,
      List.not_mem_nil, false_implies, implies_true, and_self]
  tested_kept := fun _ hwhat => absurd hwhat List.not_mem_nil

end Marks

/-- Whether a template is covered in a context and renders to a text there. -/
def Template.writes (context : Value) (shown tested : List Reference) (text : Text) (template : Template) :
    Bool :=
  template.all (·.isCovered context shown tested) && decide ((template.render context).toOption = some text)

/-- What a template writes for the marks, it writes for what they stand for. -/
theorem Filling.render_of_writes (F : Filling) {text : Text} {template : Template}
    (h : template.writes F.before F.shown F.tested text = true) :
    template.render F.after = .ok (text.flatMap F.fill) := by
  simp only [Template.writes, Bool.and_eq_true, List.all_eq_true, decide_eq_true_eq] at h
  obtain ⟨t, hbefore, hafter⟩ := F.render_template h.1
  have htext : t = text := by
    have hoption := h.2
    rw [hbefore] at hoption
    exact Option.some.inj hoption
  rw [hafter, htext]

set_option maxRecDepth 20000 in
theorem ArtifactKind.read?_source_marks (kind : ArtifactKind) {shape : Shape}
    (hshape : shape = .root ∨ shape = .derived Marks.base) :
    (Template.read? kind.source.toList).any (Template.writes
      (renderContext Marks.profile Marks.name shape) (Marks.shown shape) [⟨"variant", []⟩]
      (Text.ofLines (kind.lines Marks.profile Marks.name shape))) = true := by
  rcases hshape with rfl | rfl
  all_goals
    cases kind <;> rw [toList_of_eq_ofList (s := ArtifactKind.source _) rfl] <;> decide +kernel

set_option maxRecDepth 20000 in
theorem Source.read?_license_marks :
    (Template.read? Source.license.toList).any (Template.writes Marks.licenseContext
      [⟨"year", []⟩, ⟨"profile", ["namespace"]⟩, ⟨"profile", ["copyright_holder"]⟩] []
      (Text.ofLines (Content.license Marks.profile ['\ue00c']))) = true := by
  rw [toList_of_eq_ofList (s := Source.license) rfl]
  decide +kernel

/-- The text of every template in the context of a class is the content of its file. -/
theorem renderer_templateName (profile : Profile) (name : ClassName) (shape : Shape) (kind : ArtifactKind) :
    Template.renderer kind.templateName (renderContext profile name shape) =
      .ok (Text.ofLines (kind.lines profile name shape)) := by
  have hmarks : Marks.shape shape = .root ∨ Marks.shape shape = .derived Marks.base := by
    cases shape
    · exact Or.inl rfl
    · exact Or.inr rfl
  obtain ⟨template, hread, hwrites⟩ :=
    (Option.any_eq_true _ _).mp (kind.read?_source_marks hmarks)
  have hrender := (Marks.filling profile name shape).render_of_writes hwrites
  have hlines : (Text.ofLines (kind.lines Marks.profile Marks.name (Marks.shape shape))).flatMap
      (Marks.filling profile name shape).fill = Text.ofLines (kind.lines profile name shape) :=
    (Marks.flatMap_ofLines _ _ _ _ _).trans (congrArg Text.ofLines (Marks.map_lines _ _ _ _ _))
  rw [hlines] at hrender
  rw [Template.renderer, Source.find?_templateName, Option.bind_some, hread]
  exact congrArg (Except.mapError _) hrender

/-- The text of the preamble in its context is its content. -/
theorem renderer_license (profile : Profile) (year : Int) :
    Template.renderer "license" (License.context profile year) =
      .ok (Text.ofLines (Content.license profile (Text.ofInt year))) := by
  obtain ⟨template, hread, hwrites⟩ :=
    (Option.any_eq_true _ _).mp Source.read?_license_marks
  have hrender := (Marks.licenseFilling profile year).render_of_writes hwrites
  have hlines : (Text.ofLines (Content.license Marks.profile ['\ue00c'])).flatMap
      (Marks.licenseFilling profile year).fill = Text.ofLines (Content.license profile (Text.ofInt year)) :=
    (Marks.flatMap_ofLines _ _ _ _ _).trans (congrArg Text.ofLines (Marks.map_license _ _ _ _))
  rw [hlines] at hrender
  rw [Template.renderer, Source.find?_license, Option.bind_some, hread]
  exact congrArg (Except.mapError _) hrender

/-! ### Rendering the files of a request -/

/-- If every template renders, every file is there, in order. -/
theorem renderKinds_result {render : Renderer} {context : Value} {body : ArtifactKind → Text}
    (hrender : ∀ kind : ArtifactKind, render kind.templateName context = .ok (body kind)) (profile : Profile)
    (license : Option License) (name : ClassName) (kinds : List ArtifactKind) :
    (renderKinds render profile license name context kinds).result =
      .ok (kinds.map fun kind => ⟨kind, kind.path profile name, kind.content license (body kind)⟩) := by
  induction kinds with
  | nil => rfl
  | cons kind kinds ih =>
      simp only [renderKinds, Told.result_bind, Told.result_tell, Told.result_ofExcept, hrender, ih,
        Told.result_pure, Except.bind, List.map_cons]

/-- Rendering never fails, whatever the names, the conventions and the year are: the preamble and all files
are what is written down for them, and the preamble stands in front of the licensed files of the class
only. -/
theorem rendered_contents (profile : Profile) (name : ClassName) (base? : Option ClassName) (year : Int) :
    let preamble := Text.ofLines (Content.license profile (Text.ofInt year))
    let shape := Shape.ofBase base?
    License.forYear Template.renderer profile year = .ok ⟨year, preamble⟩ ∧
    (renderClass Template.renderer profile ⟨year, preamble⟩ name shape).result = .ok
      [⟨.publicHeader, ArtifactKind.publicHeader.path profile name,
        preamble ++ Text.ofLines (Content.publicHeader profile name shape)⟩,
       ⟨.includeShim, ArtifactKind.includeShim.path profile name,
        Text.ofLines (Content.includeShim name)⟩,
       ⟨.publicSource, ArtifactKind.publicSource.path profile name,
        preamble ++ Text.ofLines (Content.publicSource profile name shape)⟩,
       ⟨.privateHeader, ArtifactKind.privateHeader.path profile name,
        preamble ++ Text.ofLines (Content.privateHeader profile name shape)⟩,
       ⟨.privateSource, ArtifactKind.privateSource.path profile name,
        preamble ++ Text.ofLines (Content.privateSource profile name shape)⟩] ∧
    (renderTest Template.renderer profile name).result = .ok
      [⟨.testProject, ArtifactKind.testProject.path profile name,
        Text.ofLines (Content.testProject name)⟩,
       ⟨.testRegistration, ArtifactKind.testRegistration.path profile name,
        Text.ofLines (Content.testRegistration profile name)⟩,
       ⟨.testSource, ArtifactKind.testSource.path profile name,
        Text.ofLines (Content.testSource profile name)⟩] := by
  intro preamble shape
  refine ⟨?_, ?_, ?_⟩
  · rw [License.forYear, renderer_license]
    rfl
  · rw [renderClass, renderKinds_result (renderer_templateName profile name shape)]
    simp only [ArtifactKind.classSet, List.map_cons, List.map_nil, ArtifactKind.content,
      ArtifactKind.isLicensed, License.before, ArtifactKind.lines, if_true, Bool.false_eq_true, if_false]
  · rw [renderTest, renderKinds_result (renderer_templateName profile name .root)]
    simp only [ArtifactKind.testSet, List.map_cons, List.map_nil, ArtifactKind.content, ArtifactKind.lines]

end Scaffold
