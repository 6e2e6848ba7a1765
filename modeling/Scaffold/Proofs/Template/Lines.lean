import Scaffold.Proofs.Rendering
import Scaffold.Proofs.Template.Reached

/-! The expressions in the sources of the templates. They are read off line by line, with the numbers of the lines:
what stands between double braces, and the tags that choose between lines. -/

namespace Scaffold

/-- What the lines of a source say of the context. -/
inductive Mark where
  | shown (expression : Expression)
  /-- The lines up to the next tag are there if the value of the subject is the word. -/
  | choose (subject : Expression) (word : Text)
  | otherwise
  | close
  deriving DecidableEq

/-- The words that stand behind double braces. -/
def Text.behindBraces : Text → List Text
  | [] => []
  | '\x7b' :: '\x7b' :: ' ' :: cs => cs.takeWhile (· ≠ ' ') :: behindBraces cs
  | _ :: cs => behindBraces cs

/-- The expression that a word is: a name and the fields behind its dots. -/
def Expression.ofWord (line : Nat) (word : Text) : Expression :=
  ⟨⟨word.takeWhile (· ≠ '.'), (Text.cut '.' word).tail⟩, line⟩

namespace Mark

/-- The tag up to the word that it compares with. -/
def opening : Text := "\x7b% if variant == \""

/-- What a line says. -/
def ofLine (text : Text) (line : Nat) : List Mark :=
  if text = "\x7b% else %\x7d" then [.otherwise]
  else if text = "\x7b% endif %\x7d" then [.close]
  else if opening <+: text then
    [.choose (.ofWord line "variant") ((text.drop opening.length).takeWhile (· ≠ '"'))]
  else (Text.behindBraces text).map fun word => .shown (.ofWord line word)

/-- What the lines of a source say, the first line having the number 1. -/
def ofSource (source : Text) : List Mark :=
  ((Text.cut '\n' source).zipIdx 1).flatMap fun (text, line) => ofLine text line

/-- The expressions outside choices and in the branches that are taken; the flag tells whether the lines at hand
are taken. -/
def taken (context : Value) : Bool → List Mark → List Expression
  | _, [] => []
  | true, .shown expression :: rest => expression :: taken context true rest
  | false, .shown _ :: rest => taken context false rest
  | _, .choose subject word :: rest =>
    subject :: taken context (decide (subject.what.Denotes context (.text word))) rest
  | inTaken, .otherwise :: rest => taken context (!inTaken) rest
  | _, .close :: rest => taken context true rest

variable {context : Value}

theorem taken_shown (inTaken : Bool) (expressions : List Expression) (rest : List Mark) :
    taken context inTaken (expressions.map .shown ++ rest) =
      (if inTaken then expressions else []) ++ taken context inTaken rest := by
  induction expressions with
  | nil => simp
  | cons expression expressions ih =>
      cases inTaken with
      | true => simpa [taken] using ih
      | false => simpa [taken] using ih

theorem taken_close (inTaken : Bool) (rest : List Mark) :
    taken context inTaken (.close :: rest) = taken context true rest := by
  cases inTaken <;> rfl

theorem taken_otherwise (inTaken : Bool) (rest : List Mark) :
    taken context inTaken (.otherwise :: rest) = taken context (!inTaken) rest := by
  cases inTaken <;> rfl

end Mark

/-- What a block would say on lines. A branch without expressions need not be there. -/
def Block.marks : Block → List Mark
  | .piece single => single.expressions.map .shown
  | .choice subject word line same other =>
    .choose ⟨subject, line⟩ word :: ((same.flatMap Piece.expressions).map .shown ++
      ((if other.flatMap Piece.expressions = [] then []
        else .otherwise :: (other.flatMap Piece.expressions).map .shown) ++ [.close]))

def Template.marks (template : Template) : List Mark := template.flatMap Block.marks

theorem Block.taken_marks (context : Value) (block : Block) (rest : List Mark) :
    Mark.taken context true (block.marks ++ rest) = block.taken context ++ Mark.taken context true rest := by
  cases block with
  | piece single => exact Mark.taken_shown true single.expressions rest
  | choice subject word line same other =>
      rw [marks, taken, List.cons_append, List.append_assoc, List.append_assoc, Mark.taken, Mark.taken_shown]
      by_cases hword : subject.Denotes context (.text word)
      · by_cases hother : other.flatMap Piece.expressions = []
        · simp [hword, hother, Mark.taken_close]
        · simp [hword, hother, Mark.taken_close, Mark.taken_otherwise, Mark.taken_shown]
      · by_cases hother : other.flatMap Piece.expressions = []
        · simp [hword, hother, Mark.taken_close]
        · simp [hword, hother, Mark.taken_close, Mark.taken_otherwise, Mark.taken_shown]

theorem Template.taken_marks (context : Value) (template : Template) :
    Mark.taken context true template.marks = template.taken context := by
  induction template with
  | nil => rfl
  | cons block rest ih =>
      rw [marks, List.flatMap_cons, block.taken_marks, taken, List.flatMap_cons]
      exact congrArg _ ih

namespace Source

variable {name : Text} {source : String} {context : Value}

set_option maxRecDepth 20000 in
/-- The templates that are read from the sources ask for what the lines of the sources say. -/
theorem map_marks_read? (hsource : (name, source) ∈ all) :
    (Template.read? source.toList).map Template.marks = some (Mark.ofSource source.toList) := by
  simp only [all, List.mem_cons, Prod.mk.injEq, List.not_mem_nil, or_false] at hsource
  rcases hsource with ⟨-, rfl⟩ | ⟨-, rfl⟩ | ⟨-, rfl⟩ | ⟨-, rfl⟩ | ⟨-, rfl⟩ | ⟨-, rfl⟩ | ⟨-, rfl⟩ | ⟨-, rfl⟩ | ⟨-, rfl⟩
  · rw [toList_of_eq_ofList (s := license) rfl]
    decide +kernel
  · rw [toList_of_eq_ofList (s := publicHeader) rfl]
    decide +kernel
  · rw [toList_of_eq_ofList (s := includeShim) rfl]
    decide +kernel
  · rw [toList_of_eq_ofList (s := publicSource) rfl]
    decide +kernel
  · rw [toList_of_eq_ofList (s := privateHeader) rfl]
    decide +kernel
  · rw [toList_of_eq_ofList (s := privateSource) rfl]
    decide +kernel
  · rw [toList_of_eq_ofList (s := testProject) rfl]
    decide +kernel
  · rw [toList_of_eq_ofList (s := testRegistration) rfl]
    decide +kernel
  · rw [toList_of_eq_ofList (s := testSource) rfl]
    decide +kernel

theorem names_nodup : (all.map Prod.fst).Nodup := by decide +kernel

theorem find?_of_mem (hsource : (name, source) ∈ all) : find? name = some source.toList := by
  obtain ⟨before, after, hall⟩ := List.append_of_mem hsource
  have hnodup := names_nodup
  rw [hall, List.map_append, List.map_cons, List.nodup_append] at hnodup
  have hlookup : all.lookup name = some source := by
    refine List.lookup_eq_some_iff.mpr ⟨before, after, hall, fun entry hentry => ?_⟩
    have hname := hnodup.2.2 entry.1 (List.mem_map_of_mem hentry) name List.mem_cons_self
    exact bne_iff_ne.mpr hname.symm
  rw [find?, hlookup, Option.map_some]

theorem find?_of_notMem (h : ∀ entry ∈ all, entry.1 ≠ name) : find? name = none := by
  rw [find?, Option.map_eq_none_iff, List.lookup_eq_none_iff]
  intro entry hentry
  simpa using (h entry hentry).symm

/-- The expressions that rendering a source comes to: those outside choices and in the branches that are taken, up to
the first without a value. -/
def reached (context : Value) (source : Text) : List Expression :=
  Expression.upTo context (Mark.taken context true (Mark.ofSource source))

theorem exists_template (hsource : (name, source) ∈ all) : ∃ template : Template,
    (∀ context, reached context source.toList = Expression.upTo context (template.taken context)) ∧
    ∀ context, Template.renderer name context =
      (template.render context).mapError fun line => .template (.undefined name line) := by
  obtain ⟨template, hread, hmarks⟩ := Option.map_eq_some_iff.mp (map_marks_read? hsource)
  refine ⟨template, fun context => ?_, fun context => ?_⟩
  · rw [reached, ← hmarks, template.taken_marks]
  · rw [Template.renderer, find?_of_mem hsource, Option.bind_some, hread]

end Source

/-- For any context, be it an object or not: a name that no template has is not found. A template gives a text exactly
if every expression that is reached has a value, null being one; else the error names the template and the line
of the last that is reached, which is the first without a value. What stands in branches that are not taken and
what else the context has does not matter: another context with the same values for what is reached gives the
same. -/
theorem Template.renderer_reached (name : Text) (context : Value) :
    ((∀ entry ∈ Source.all, entry.1 ≠ name) → Template.renderer name context = .error (.template (.notFound name))) ∧
    ∀ source, (name, source) ∈ Source.all →
      ((∃ text, Template.renderer name context = .ok text) ↔
        ∀ expression ∈ Source.reached context source.toList, expression.IsDefined context) ∧
      ((¬∀ expression ∈ Source.reached context source.toList, expression.IsDefined context) →
        ∃ before expression, Source.reached context source.toList = before ++ [expression] ∧
          (∀ earlier ∈ before, earlier.IsDefined context) ∧ ¬expression.IsDefined context ∧
          Template.renderer name context = .error (.template (.undefined name expression.line)) ∧
          (TemplateFault.undefined name expression.line).text =
            "undefined value (in " ++ name ++ ":" ++ Text.ofNat expression.line ++ ")") ∧
      ∀ other, (∀ expression ∈ Source.reached context source.toList, expression.Agrees context other) →
        Template.renderer name other = Template.renderer name context := by
  refine ⟨fun hname => ?_, fun source hsource => ?_⟩
  · rw [Template.renderer, Source.find?_of_notMem hname, Option.bind_none]
  · obtain ⟨template, hreached, hrender⟩ := Source.exists_template hsource
    have hends := template.ends context
    rw [hreached, hrender]
    refine ⟨?_, fun hundefined => ?_, fun other hagree => ?_⟩
    · rw [← hends.ok_iff]
      cases template.render context with
      | ok text => exact ⟨fun _ => ⟨text, rfl⟩, fun _ => ⟨text, rfl⟩⟩
      | error line =>
          constructor
          · rintro ⟨text, htext⟩
            cases htext
          · rintro ⟨text, htext⟩
            cases htext
    · obtain ⟨before, expression, hlast, hbefore, h, herror⟩ := hends.exists_of_not hundefined
      refine ⟨before, expression, hlast, hbefore, h, ?_, rfl⟩
      rw [herror]
      rfl
    · rw [hrender, Template.render_eq hagree]

/-- A text has no fields, so that rendering stops at the first expression and the class is not asked for. -/
example : Source.reached (.map [("profile", .text [])]) Source.testRegistration.toList =
    [⟨⟨"profile", ["test_registration_macro"]⟩, 1⟩] := by decide +kernel

end Scaffold
