import Scaffold.Plan
import Scaffold.Proofs.Name.Identifier
import Scaffold.Proofs.Told

/-! What accepted names and requests are. A name is accepted exactly if it is an identifier, a base class
exactly if it is accepted as a name and differs from the class in its small form. -/

namespace Scaffold

theorem ClassName.parse_eq_ok_iff {text : Text} {name : ClassName} :
    ClassName.parse text = .ok name ↔ isIdentifier text = true ∧ name = .derive text := by
  unfold ClassName.parse validateName
  by_cases hempty : text = []
  · subst hempty
    simp [isIdentifier, Except.map]
  · by_cases hidentifier : isIdentifier text = true
    · simp [hempty, hidentifier, Except.map, eq_comm]
    · simp [hempty, hidentifier, Except.map]

theorem Shape.select_some_eq_ok_iff {name : ClassName} {text : Text} {shape : Shape} :
    Shape.select name (some text) = .ok shape ↔
      ∃ base, ClassName.parse text = .ok base ∧ base.lower ≠ name.lower ∧ shape = .derived base := by
  rw [Shape.select]
  cases hparse : ClassName.parse text with
  | error fault => simp
  | ok base =>
      by_cases hlower : base.lower = name.lower
      · simp [hlower]
      · simp only [hlower, if_false, Except.ok.injEq, exists_eq_left', ne_eq, not_false_eq_true, true_and]
        exact eq_comm

namespace ClassName

/-- The spellings of an identifier. -/
structure IsParsed (name : ClassName) : Prop where
  isIdentifier : isIdentifier name.pascal = true
  eq_derive : name = .derive name.pascal

theorem isParsed_of_parse {text : Text} {name : ClassName} (h : ClassName.parse text = .ok name) :
    name.IsParsed := by
  obtain ⟨hidentifier, rfl⟩ := parse_eq_ok_iff.mp h
  exact ⟨hidentifier, rfl⟩

namespace IsParsed

variable {name other : ClassName}

theorem lower_eq (h : name.IsParsed) : name.lower = Text.lower name.pascal := congrArg ClassName.lower h.eq_derive

theorem upper_eq (h : name.IsParsed) : name.upper = Text.upper name.pascal := congrArg ClassName.upper h.eq_derive

theorem pascal_isWord (h : name.IsParsed) : IsWord name.pascal := isWord_of_isIdentifier h.isIdentifier

theorem lower_isWord (h : name.IsParsed) : IsWord name.lower := h.lower_eq ▸ h.pascal_isWord.lower

theorem upper_isWord (h : name.IsParsed) : IsWord name.upper := h.upper_eq ▸ h.pascal_isWord.upper

theorem pascal_ne_nil (h : name.IsParsed) : name.pascal ≠ [] := ne_nil_of_isIdentifier h.isIdentifier

theorem lower_ne_nil (h : name.IsParsed) : name.lower ≠ [] := by
  rw [h.lower_eq, Text.lower_of_isAscii h.pascal_isWord.isAscii, Ne, List.map_eq_nil_iff]
  exact h.pascal_ne_nil

theorem upper_lower (h : name.IsParsed) : Text.upper name.lower = name.upper := by
  rw [h.lower_eq, h.pascal_isWord.upper_lower, h.upper_eq]

theorem lower_upper (h : name.IsParsed) : Text.lower name.upper = name.lower := by
  rw [h.upper_eq, h.pascal_isWord.lower_upper, h.lower_eq]

/-- Names with the same small form are those with the same capital form. -/
theorem upper_eq_iff (h : name.IsParsed) (hother : other.IsParsed) :
    name.upper = other.upper ↔ name.lower = other.lower := by
  constructor
  · intro heq
    rw [← h.lower_upper, heq, hother.lower_upper]
  · intro heq
    rw [← h.upper_lower, heq, hother.upper_lower]

end IsParsed

end ClassName

/-- The spellings of an identifier for the base class, if there is one. -/
def Shape.IsParsed (shape : Shape) : Prop := ∀ base, shape.base? = some base → base.IsParsed

theorem Shape.isParsed_root : Shape.root.IsParsed := nofun

theorem Shape.lower_ne_of_select {name : ClassName} {baseName : Option Text} {shape : Shape}
    (h : Shape.select name baseName = .ok shape) : ∀ base, shape.base? = some base → base.lower ≠ name.lower := by
  intro base hsome
  cases baseName with
  | none =>
      obtain rfl : Shape.root = shape := Except.ok.inj h
      exact nomatch hsome
  | some text =>
      obtain ⟨base', -, hlower, rfl⟩ := Shape.select_some_eq_ok_iff.mp h
      obtain rfl := Option.some.inj hsome
      exact hlower

theorem Shape.isParsed_of_select {name : ClassName} {baseName : Option Text} {shape : Shape}
    (h : Shape.select name baseName = .ok shape) :
    shape.IsParsed ∧ shape.base? = baseName.map ClassName.derive := by
  cases baseName with
  | none =>
      obtain rfl : Shape.root = shape := Except.ok.inj h
      exact ⟨Shape.isParsed_root, rfl⟩
  | some text =>
      obtain ⟨base, hparse, -, rfl⟩ := Shape.select_some_eq_ok_iff.mp h
      refine ⟨fun base' hbase => ?_, ?_⟩
      · obtain rfl := Option.some.inj hbase
        exact ClassName.isParsed_of_parse hparse
      · obtain ⟨-, rfl⟩ := ClassName.parse_eq_ok_iff.mp hparse
        rfl

theorem ClassRequest.check_eq_ok_iff {request : ClassRequest} {name : ClassName} {shape : Shape} :
    request.check = .ok (name, shape) ↔
      ClassName.parse request.className = .ok name ∧ Shape.select name request.baseName = .ok shape := by
  rw [ClassRequest.check]
  cases hparse : ClassName.parse request.className with
  | error fault => simp [bind, Except.bind]
  | ok parsed =>
      cases hselect : Shape.select parsed request.baseName with
      | error fault =>
          simp only [bind, Except.bind, hselect, reduceCtorEq, Except.ok.injEq, false_iff, not_and]
          rintro rfl
          rw [hselect]
          exact fun h => nomatch h
      | ok selected =>
          simp only [bind, Except.bind, hselect, pure, Except.pure, Except.ok.injEq, Prod.mk.injEq]
          constructor
          · rintro ⟨rfl, rfl⟩
            exact ⟨rfl, hselect⟩
          · rintro ⟨rfl, h⟩
            exact ⟨rfl, Except.ok.inj (hselect.symm.trans h)⟩

/-- Two identifiers with different small forms are accepted as a class and its base class. -/
theorem ClassRequest.check_of_isIdentifier {className baseName : Text}
    (hname : isIdentifier className = true) (hbase : isIdentifier baseName = true)
    (hlower : Text.lower baseName ≠ Text.lower className) :
    ClassRequest.check ⟨className, some baseName⟩ =
      .ok (.derive className, .derived (.derive baseName)) := by
  have hparse : ClassName.parse baseName = .ok (.derive baseName) := ClassName.parse_eq_ok_iff.mpr ⟨hbase, rfl⟩
  exact ClassRequest.check_eq_ok_iff.mpr ⟨ClassName.parse_eq_ok_iff.mpr ⟨hname, rfl⟩,
    Shape.select_some_eq_ok_iff.mpr ⟨_, hparse, hlower, rfl⟩⟩

/-- What a request is accepted for. -/
structure ClassRequest.Accepts (request : ClassRequest) (name : ClassName) (shape : Shape) : Prop where
  name_isParsed : name.IsParsed
  shape_isParsed : shape.IsParsed
  name_eq : name = .derive request.className
  base_eq : shape.base? = request.baseName.map ClassName.derive

theorem ClassRequest.accepts_of_check {request : ClassRequest} {name : ClassName} {shape : Shape}
    (h : request.check = .ok (name, shape)) : request.Accepts name shape := by
  obtain ⟨hparse, hselect⟩ := ClassRequest.check_eq_ok_iff.mp h
  obtain ⟨hshape, hbase⟩ := Shape.isParsed_of_select hselect
  obtain ⟨-, hname⟩ := ClassName.parse_eq_ok_iff.mp hparse
  exact ⟨ClassName.isParsed_of_parse hparse, hshape, hname, hbase⟩

namespace ClassRequest.Accepts

variable {request : ClassRequest} {name : ClassName} {shape : Shape}

theorem pascal_eq (h : request.Accepts name shape) : name.pascal = request.className :=
  congrArg ClassName.pascal h.name_eq

theorem base_pascal_eq (h : request.Accepts name shape) :
    shape.base?.map ClassName.pascal = request.baseName := by
  have hpascal : ClassName.pascal ∘ ClassName.derive = id := rfl
  rw [h.base_eq, Option.map_map, hpascal, Option.map_id, id_eq]

end ClassRequest.Accepts

end Scaffold
