import Scaffold.Proofs.Cpp.Form
import Scaffold.Proofs.Spelling

/-! What the four code files of a class say, line by line, for each shape of the class. -/

namespace Scaffold

open Cpp (Line Member pointerTo scopedPointerTo)

namespace ClassName

/-- The constructor that makes the private state. -/
def constructor (name : ClassName) : Member := ⟨name.pascal, false, [pointerTo "QObject"]⟩

def destructor (name : ClassName) : Member := ⟨name.pascal, true, []⟩

/-- The constructor that is handed the private state of a class derived from this one. -/
def sharingConstructor (name : ClassName) : Member :=
  ⟨name.pascal, false, [pointerTo name.privateType, pointerTo "QObject"]⟩

def privateConstructor (name : ClassName) : Member := ⟨name.privateType, false, [pointerTo name.pascal]⟩

end ClassName

/-- The parent of a class with that shape. -/
def Shape.parent (profile : Profile) (shape : Shape) : Text := shape.choose profile.rootBase ClassName.pascal

/-- The parent of the private class of a class with that shape. -/
def Shape.privateParent? (shape : Shape) : Option Text := shape.choose none fun base => some base.privateType

namespace Outline

variable (profile : Profile) (name : ClassName) (shape : Shape)

def publicHeader : List Line :=
  [.directive "ifndef" [.word (name.guard profile)], .directive "define" [.word (name.guard profile)], .blank,
   .inclusion, .inclusion, .inclusion, .blank] ++
  shape.choose [] (fun _ => [.inclusion]) ++
  [.inclusion, .blank, .namespaceOpens profile.nameSpace, .blank, .forward name.privateType, .blank,
   .head name.pascal (some (shape.parent profile)), .braces, .macroUse "Q_OBJECT" none, .access "public", .blank,
   .declares name.constructor, .declares name.destructor, .blank,
   .access "protected", .declares name.sharingConstructor, .blank] ++
  shape.choose [.field (scopedPointerTo name.privateType) "d_ptr"]
    (fun _ => []) ++
  [.macroUse "Q_DECLARE_PRIVATE" (some name.pascal), .braces, .blank, .namespaceCloses profile.nameSpace, .blank,
   .directive "endif" [.mark '/', .mark '/', .word (name.guard profile)]]

def publicSource : List Line :=
  [.inclusion, .blank, .inclusion, .blank, .namespaceOpens profile.nameSpace, .blank,
   .defines ⟨name.constructor, shape.parent profile :: shape.choose ["d_ptr"] (fun _ => [])⟩, .blank,
   .defines ⟨name.destructor, []⟩, .blank,
   .defines ⟨name.sharingConstructor, shape.parent profile :: shape.choose ["d_ptr"] (fun _ => [])⟩, .blank,
   .namespaceCloses profile.nameSpace]

def privateHeader : List Line :=
  [.directive "ifndef" [.word (name.privateGuard profile)],
   .directive "define" [.word (name.privateGuard profile)], .blank] ++
  shape.choose [] (fun _ => [.inclusion]) ++
  [.inclusion, .blank, .namespaceOpens profile.nameSpace, .blank,
   .head name.privateType shape.privateParent?, .braces, .access "public",
   .declares name.privateConstructor, .blank] ++
  shape.choose [.field (pointerTo name.pascal) "q_ptr"] (fun _ => []) ++
  [.macroUse "Q_DECLARE_PUBLIC" (some name.pascal), .braces, .blank, .namespaceCloses profile.nameSpace, .blank,
   .directive "endif" [.mark '/', .mark '/', .word (name.privateGuard profile)]]

def privateSource : List Line :=
  [.inclusion, .blank, .namespaceOpens profile.nameSpace, .blank,
   .defines ⟨name.privateConstructor, shape.choose ["q_ptr"] fun base => [base.privateType]⟩, .braces, .braces,
   .blank, .namespaceCloses profile.nameSpace]

end Outline

/-! ### Reading the files -/

theorem Cpp.outline?_ofLines {ls : List Text} (hls : ∀ line ∈ ls, Text.isLine line = true) :
    Cpp.outline? (Text.ofLines ls) = ls.mapM Line.ofText? := by
  rw [Cpp.outline?, Text.lines_ofLines hls]

variable {profile : Profile} {name : ClassName} {shape : Shape}

theorem Shape.isIdentifier_parent (hprofile : profile.IsSpelled) (hshape : shape.IsParsed) :
    isIdentifier (shape.parent profile) = true := by
  cases shape with
  | root => exact hprofile.rootBase
  | derived base =>
      have hbase : base.IsParsed := hshape base rfl
      exact hbase.isIdentifier

theorem Shape.isIdentifier_privateParent (hshape : shape.IsParsed) :
    shape.privateParent?.all isIdentifier = true := by
  cases shape with
  | root => rfl
  | derived base =>
      have hbase : base.IsParsed := hshape base rfl
      exact ClassName.isIdentifier_privateType hbase

theorem mapM_ofText?_publicHeader (hprofile : profile.IsSpelled) (hname : name.IsParsed)
    (hshape : shape.IsParsed) :
    (Content.publicHeader profile name shape).mapM Line.ofText? =
      some (Outline.publicHeader profile name shape) := by
  have hpascal := hname.isIdentifier
  have hprivate := ClassName.isIdentifier_privateType hname
  have hguard := ClassName.isIdentifier_guard hprofile hname
  have hspace := hprofile.nameSpace
  have hexport := hprofile.exportMacro
  have hparent := Shape.isIdentifier_parent hprofile hshape
  cases shape
  all_goals
    simp only [Shape.parent, Shape.choose_root, Shape.choose_derived] at hparent
    simp (disch := first | assumption | decide | (repeat apply List.prefix_append_of_prefix); decide) only
      [-String.reduceToList, Content.publicHeader, Outline.publicHeader, Shape.parent,
      ClassName.constructor, ClassName.destructor, ClassName.sharingConstructor, Shape.choose_root,
      Shape.choose_derived, List.cons_append, List.nil_append, List.append_nil, List.mapM_cons,
      List.mapM_nil, Option.bind_eq_bind, Option.bind_some, Option.pure_def, Line.ofText?_ifndef,
      Line.ofText?_define, Line.ofText?_endif, Line.ofText?_inclusion, Line.ofText?_blank,
      Line.ofText?_namespaceOpens, Line.ofText?_namespaceCloses, Line.ofText?_forward,
      Line.ofText?_head_macro, Line.ofText?_opening, Line.ofText?_closing_class,
      Line.ofText?_macro_object, Line.ofText?_macro_private, Line.ofText?_public, Line.ofText?_protected,
      Line.ofText?_constructor, Line.ofText?_destructor, Line.ofText?_constructor_private,
      Line.ofText?_field_private]

theorem mapM_ofText?_publicSource (hprofile : profile.IsSpelled) (hname : name.IsParsed)
    (hshape : shape.IsParsed) :
    (Content.publicSource profile name shape).mapM Line.ofText? =
      some (Outline.publicSource profile name shape) := by
  have hpascal := hname.isIdentifier
  have hprivate := ClassName.isIdentifier_privateType hname
  have hspace := hprofile.nameSpace
  have hparent := Shape.isIdentifier_parent hprofile hshape
  cases shape
  all_goals
    simp only [Shape.parent, Shape.choose_root, Shape.choose_derived] at hparent
    simp (disch := first | assumption | decide | (repeat apply List.prefix_append_of_prefix); decide) only
      [-String.reduceToList, Content.publicSource, Outline.publicSource, Shape.parent,
      ClassName.constructor, ClassName.destructor, ClassName.sharingConstructor, Shape.choose_root,
      Shape.choose_derived, List.mapM_cons,
      List.mapM_nil, Option.bind_eq_bind, Option.bind_some, Option.pure_def, Line.ofText?_inclusion,
      Line.ofText?_blank, Line.ofText?_namespaceOpens, Line.ofText?_namespaceCloses,
      Line.ofText?_definition_root, Line.ofText?_definition_derived, Line.ofText?_definition_destructor,
      Line.ofText?_definition_private_root, Line.ofText?_definition_private_derived]

theorem mapM_ofText?_privateHeader (hprofile : profile.IsSpelled) (hname : name.IsParsed)
    (hshape : shape.IsParsed) :
    (Content.privateHeader profile name shape).mapM Line.ofText? =
      some (Outline.privateHeader profile name shape) := by
  have hpascal := hname.isIdentifier
  have hprivate := ClassName.isIdentifier_privateType hname
  have hguard := ClassName.isIdentifier_privateGuard hprofile hname
  have hspace := hprofile.nameSpace
  have hprivateParent := Shape.isIdentifier_privateParent hshape
  cases shape
  all_goals
    simp only [Shape.privateParent?, Shape.choose_root, Shape.choose_derived, Option.all_none,
      Option.all_some] at hprivateParent
    simp (disch := first | assumption | decide | (repeat apply List.prefix_append_of_prefix); decide) only
      [-String.reduceToList, Content.privateHeader, Outline.privateHeader, Shape.privateParent?,
      ClassName.privateConstructor, Shape.choose_root, Shape.choose_derived, List.cons_append,
      List.nil_append, List.append_nil, List.mapM_cons, List.mapM_nil, Option.bind_eq_bind,
      Option.bind_some, Option.pure_def, Line.ofText?_ifndef, Line.ofText?_define, Line.ofText?_endif,
      Line.ofText?_inclusion, Line.ofText?_blank, Line.ofText?_namespaceOpens,
      Line.ofText?_namespaceCloses, Line.ofText?_head, Line.ofText?_head_parent, Line.ofText?_opening,
      Line.ofText?_closing_class, Line.ofText?_macro_public, Line.ofText?_public,
      Line.ofText?_constructor_public, Line.ofText?_field_public]

theorem mapM_ofText?_privateSource (hprofile : profile.IsSpelled) (hname : name.IsParsed)
    (hshape : shape.IsParsed) :
    (Content.privateSource profile name shape).mapM Line.ofText? =
      some (Outline.privateSource profile name shape) := by
  have hpascal := hname.isIdentifier
  have hprivate := ClassName.isIdentifier_privateType hname
  have hspace := hprofile.nameSpace
  have hprivateParent := Shape.isIdentifier_privateParent hshape
  cases shape
  all_goals
    simp only [Shape.privateParent?, Shape.choose_root, Shape.choose_derived, Option.all_none,
      Option.all_some] at hprivateParent
    simp (disch := first | assumption | decide | (repeat apply List.prefix_append_of_prefix); decide) only
      [-String.reduceToList, Content.privateSource, Outline.privateSource, ClassName.privateConstructor,
      Shape.choose_root, Shape.choose_derived, List.mapM_cons, List.mapM_nil, Option.bind_eq_bind,
      Option.bind_some, Option.pure_def, Line.ofText?_inclusion, Line.ofText?_blank, Line.ofText?_opening,
      Line.ofText?_closing, Line.ofText?_namespaceOpens, Line.ofText?_namespaceCloses,
      Line.ofText?_definition_public_root, Line.ofText?_definition_public_derived]

end Scaffold
