import Scaffold.Proofs.Cpp.Line

/-! The forms of lines that the files of a class are made of, and what they say, whatever identifiers stand
in the place of the names. That an identifier is a word of the surrounding text, such as `class`, makes no
difference. -/

namespace Scaffold.Cpp.Line

variable {name parent type : Text}

theorem read?_definition {ts rest : List Token} {member : Member} {names : List Text}
    (hmember : Member.read? ts = some (member, rest)) (htype : member.type = type)
    (hnames : initialised? rest = some names) :
    read? (.word type :: .mark ':' :: .mark ':' :: ts) = some (.defines ⟨member, names⟩) := by
  have hdefinition : ofDefinition? (.word type :: .mark ':' :: .mark ':' :: ts) =
      some (.defines ⟨member, names⟩) := by
    simp only [ofDefinition?, hmember, htype, if_true, hnames, Option.map_some]
  rw [read?, List.findSome?_cons, hdefinition]

/-! ### Directives and namespaces -/

theorem ofText?_ifndef (hname : isIdentifier name = true) :
    ofText? ("#ifndef " ++ name) = some (.directive "ifndef" [.word name]) := by
  simp (disch := first | assumption | decide) only [ofText?, tokens_append, tokens_word]
  rfl

theorem ofText?_define (hname : isIdentifier name = true) :
    ofText? ("#define " ++ name) = some (.directive "define" [.word name]) := by
  simp (disch := first | assumption | decide) only [ofText?, tokens_append, tokens_word]
  rfl

theorem ofText?_endif (hname : isIdentifier name = true) :
    ofText? ("#endif // " ++ name) = some (.directive "endif" [.mark '/', .mark '/', .word name]) := by
  simp (disch := first | assumption | decide) only [ofText?, tokens_append, tokens_word]
  rfl

theorem ofText?_inclusion {line : Text} (hline : ("#include " : Text) <+: line) :
    ofText? line = some .inclusion := by
  obtain ⟨rest, rfl⟩ := hline
  simp (disch := decide) only [ofText?, tokens_append]
  rfl

theorem ofText?_namespaceOpens (hname : isIdentifier name = true) :
    ofText? ("namespace " ++ name ++ " \x7b") = some (.namespaceOpens name) := by
  simp (disch := first | assumption | decide) only [ofText?, List.append_assoc, tokens_append,
    tokens_word_append]
  rfl

theorem ofText?_namespaceCloses (hname : isIdentifier name = true) :
    ofText? ("\x7d // namespace " ++ name) = some (.namespaceCloses name) := by
  simp (disch := first | assumption | decide) only [ofText?, tokens_append, tokens_word]
  rfl

/-! ### Classes and their members -/

theorem ofText?_forward (htype : isIdentifier type = true) :
    ofText? ("class " ++ type ++ ";") = some (.forward type) := by
  simp (disch := first | assumption | decide) only [ofText?, List.append_assoc, tokens_append,
    tokens_word_append]
  rfl

theorem ofText?_head (htype : isIdentifier type = true) :
    ofText? ("class " ++ type) = some (.head type none) := by
  simp (disch := first | assumption | decide) only [ofText?, tokens_append, tokens_word]
  rfl

theorem ofText?_head_parent (htype : isIdentifier type = true) (hparent : isIdentifier parent = true) :
    ofText? ("class " ++ type ++ " : public " ++ parent) = some (.head type (some parent)) := by
  simp (disch := first | assumption | decide) only [ofText?, List.append_assoc, tokens_append,
    tokens_word_append_append, tokens_word]
  rfl

theorem ofText?_head_macro (hname : isIdentifier name = true) (htype : isIdentifier type = true)
    (hparent : isIdentifier parent = true) :
    ofText? ("class " ++ name ++ " " ++ type ++ " : public " ++ parent) = some (.head type (some parent)) := by
  simp (disch := first | assumption | decide) only [ofText?, List.append_assoc, tokens_append,
    tokens_word_append_append, tokens_word]
  rfl

theorem ofText?_constructor (htype : isIdentifier type = true) :
    ofText? ("    explicit " ++ type ++ "(QObject* parent = nullptr);") =
      some (.declares ⟨type, false, [pointerTo "QObject"]⟩) := by
  simp (disch := first | assumption | decide) only [ofText?, List.append_assoc, tokens_append,
    tokens_word_append]
  rfl

theorem ofText?_destructor (htype : isIdentifier type = true) :
    ofText? ("    ~" ++ type ++ "() override;") = some (.declares ⟨type, true, []⟩) := by
  simp (disch := first | assumption | decide) only [ofText?, List.append_assoc, tokens_append,
    tokens_word_append]
  rfl

theorem ofText?_constructor_private (htype : isIdentifier type = true) (hname : isIdentifier name = true) :
    ofText? ("    explicit " ++ type ++ "(" ++ name ++ "* d, QObject* parent = nullptr);") =
      some (.declares ⟨type, false, [pointerTo name, pointerTo "QObject"]⟩) := by
  simp (disch := first | assumption | decide) only [ofText?, List.append_assoc, tokens_append,
    tokens_word_append_append, tokens_word_append]
  rfl

theorem ofText?_constructor_public (htype : isIdentifier type = true) (hname : isIdentifier name = true) :
    ofText? ("    explicit " ++ type ++ "(" ++ name ++ "* q);") =
      some (.declares ⟨type, false, [pointerTo name]⟩) := by
  simp (disch := first | assumption | decide) only [ofText?, List.append_assoc, tokens_append,
    tokens_word_append_append, tokens_word_append]
  rfl

theorem ofText?_field_private (hname : isIdentifier name = true) :
    ofText? ("    QScopedPointer<" ++ name ++ "> d_ptr;") = some (.field (scopedPointerTo name) "d_ptr") := by
  simp (disch := first | assumption | decide) only [ofText?, List.append_assoc, tokens_append,
    tokens_word_append]
  rfl

theorem ofText?_field_public (hname : isIdentifier name = true) :
    ofText? ("    " ++ name ++ " *q_ptr;") = some (.field (pointerTo name) "q_ptr") := by
  simp (disch := first | assumption | decide) only [ofText?, List.append_assoc, tokens_append,
    tokens_word_append]
  rfl

theorem ofText?_macro_private (htype : isIdentifier type = true) :
    ofText? ("    Q_DECLARE_PRIVATE(" ++ type ++ ");") = some (.macroUse "Q_DECLARE_PRIVATE" (some type)) := by
  simp (disch := first | assumption | decide) only [ofText?, List.append_assoc, tokens_append,
    tokens_word_append]
  rfl

theorem ofText?_macro_public (htype : isIdentifier type = true) :
    ofText? ("    Q_DECLARE_PUBLIC(" ++ type ++ ");") = some (.macroUse "Q_DECLARE_PUBLIC" (some type)) := by
  simp (disch := first | assumption | decide) only [ofText?, List.append_assoc, tokens_append,
    tokens_word_append]
  rfl

theorem ofText?_blank : ofText? "" = some .blank := rfl

theorem ofText?_opening : ofText? "\x7b" = some .braces := rfl

theorem ofText?_closing : ofText? "\x7d" = some .braces := rfl

theorem ofText?_closing_class : ofText? "\x7d;" = some .braces := rfl

theorem ofText?_macro_object : ofText? "    Q_OBJECT" = some (.macroUse "Q_OBJECT" none) := rfl

theorem ofText?_public : ofText? "public:" = some (.access "public") := rfl

theorem ofText?_protected : ofText? "protected:" = some (.access "protected") := rfl

/-! ### Definitions -/

theorem ofText?_definition_root (htype : isIdentifier type = true) (hparent : isIdentifier parent = true)
    (hname : isIdentifier name = true) :
    ofText? (type ++ "::" ++ type ++ "(QObject* parent) : " ++ parent ++ "(parent), d_ptr(new "
      ++ name ++ "(this)) \x7b\x7d") =
      some (.defines ⟨⟨type, false, [pointerTo "QObject"]⟩, [parent, "d_ptr"]⟩) := by
  simp (disch := first | assumption | decide) only [ofText?, List.append_assoc, tokens_append,
    tokens_word_append_append, tokens_word_append]
  exact read?_definition rfl rfl rfl

theorem ofText?_definition_derived (htype : isIdentifier type = true) (hparent : isIdentifier parent = true)
    (hname : isIdentifier name = true) :
    ofText? (type ++ "::" ++ type ++ "(QObject* parent) : " ++ parent ++ "(new " ++ name
      ++ "(this), parent) \x7b\x7d") = some (.defines ⟨⟨type, false, [pointerTo "QObject"]⟩, [parent]⟩) := by
  simp (disch := first | assumption | decide) only [ofText?, List.append_assoc, tokens_append,
    tokens_word_append_append, tokens_word_append]
  exact read?_definition rfl rfl rfl

theorem ofText?_definition_destructor (htype : isIdentifier type = true) :
    ofText? (type ++ "::~" ++ type ++ "() \x7b\x7d") = some (.defines ⟨⟨type, true, []⟩, []⟩) := by
  simp (disch := first | assumption | decide) only [ofText?, List.append_assoc, tokens_append,
    tokens_word_append_append, tokens_word_append]
  exact read?_definition rfl rfl rfl

theorem ofText?_definition_private_root (htype : isIdentifier type = true) (hname : isIdentifier name = true)
    (hparent : isIdentifier parent = true) :
    ofText? (type ++ "::" ++ type ++ "(" ++ name ++ "* d, QObject* parent) : " ++ parent
      ++ "(parent), d_ptr(d) \x7b\x7d") =
      some (.defines ⟨⟨type, false, [pointerTo name, pointerTo "QObject"]⟩, [parent, "d_ptr"]⟩) := by
  simp (disch := first | assumption | decide) only [ofText?, List.append_assoc, tokens_append,
    tokens_word_append_append, tokens_word_append]
  exact read?_definition rfl rfl rfl

theorem ofText?_definition_private_derived (htype : isIdentifier type = true)
    (hname : isIdentifier name = true) (hparent : isIdentifier parent = true) :
    ofText? (type ++ "::" ++ type ++ "(" ++ name ++ "* d, QObject* parent) : " ++ parent
      ++ "(d, parent) \x7b\x7d") =
      some (.defines ⟨⟨type, false, [pointerTo name, pointerTo "QObject"]⟩, [parent]⟩) := by
  simp (disch := first | assumption | decide) only [ofText?, List.append_assoc, tokens_append,
    tokens_word_append_append, tokens_word_append]
  exact read?_definition rfl rfl rfl

theorem ofText?_definition_public_root (htype : isIdentifier type = true) (hname : isIdentifier name = true) :
    ofText? (type ++ "::" ++ type ++ "(" ++ name ++ "* q) : q_ptr(q)") =
      some (.defines ⟨⟨type, false, [pointerTo name]⟩, ["q_ptr"]⟩) := by
  simp (disch := first | assumption | decide) only [ofText?, List.append_assoc, tokens_append,
    tokens_word_append_append, tokens_word_append]
  exact read?_definition rfl rfl rfl

theorem ofText?_definition_public_derived (htype : isIdentifier type = true) (hname : isIdentifier name = true)
    (hparent : isIdentifier parent = true) :
    ofText? (type ++ "::" ++ type ++ "(" ++ name ++ "* q) : " ++ parent ++ "(q)") =
      some (.defines ⟨⟨type, false, [pointerTo name]⟩, [parent]⟩) := by
  simp (disch := first | assumption | decide) only [ofText?, List.append_assoc, tokens_append,
    tokens_word_append_append, tokens_word_append]
  exact read?_definition rfl rfl rfl

end Scaffold.Cpp.Line
