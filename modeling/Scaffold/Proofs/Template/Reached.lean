import Scaffold.Template

/-! Which expressions decide how rendering ends. In the order in which they stand these are the expressions between
the choices and those in the branches that are taken, up to the first that has no value in the context. If all of
them have one the template gives a text, else it fails at the line of the last. Whatever else there is in the
template or in the context does not matter. -/

namespace Scaffold

/-! ### Values of references -/

/-- The value is an object, and this is what it has under the key. -/
def Value.Has (value : Value) (key : Text) (inner : Value) : Prop :=
  ∃ fields, value = .map fields ∧ fields.lookup key = some inner

/-- The keys lead from object to object and at last to the value. -/
def Value.LeadsTo (value : Value) : List Text → Value → Prop
  | [], inner => value = inner
  | key :: keys, inner => ∃ next, value.Has key next ∧ next.LeadsTo keys inner

/-- The name is a key of the context, and every field one of the value before it. -/
def Reference.Denotes (context : Value) (what : Reference) (value : Value) : Prop :=
  context.LeadsTo (what.name :: what.fields) value

theorem Value.field?_eq_some_iff {value inner : Value} {key : Text} :
    value.field? key = some inner ↔ value.Has key inner := by
  cases value with
  | map fields => simp [Value.field?, Value.Has]
  | _ => simp [Value.field?, Value.Has]

theorem Reference.foldl_field?_eq_some_iff {start : Option Value} {keys : List Text} {inner : Value} :
    keys.foldl (fun value field => value.bind (·.field? field)) start = some inner ↔
      ∃ value, start = some value ∧ value.LeadsTo keys inner := by
  induction keys generalizing start with
  | nil => simp [Value.LeadsTo]
  | cons key keys ih =>
      rw [List.foldl_cons, ih]
      simp only [Option.bind_eq_some_iff, Value.field?_eq_some_iff, Value.LeadsTo]
      constructor
      · rintro ⟨next, ⟨value, hstart, hnext⟩, hkeys⟩
        exact ⟨value, hstart, next, hnext, hkeys⟩
      · rintro ⟨value, hstart, next, hnext, hkeys⟩
        exact ⟨next, ⟨value, hstart, hnext⟩, hkeys⟩

theorem Reference.value?_eq_some_iff {context value : Value} {what : Reference} :
    what.value? context = some value ↔ what.Denotes context value := by
  rw [Reference.value?, foldl_field?_eq_some_iff]
  simp only [Value.field?_eq_some_iff]
  exact Iff.rfl

/-- An expression in a template, and the line on which it stands. -/
structure Expression where
  what : Reference
  line : Nat
  deriving DecidableEq

namespace Expression

/-- The expression has a value in the context. -/
def IsDefined (context : Value) (expression : Expression) : Prop :=
  ∃ value, expression.what.Denotes context value

theorem isDefined_iff {context : Value} {expression : Expression} :
    expression.IsDefined context ↔ (expression.what.value? context).isSome := by
  simp only [IsDefined, Option.isSome_iff_exists, Reference.value?_eq_some_iff]

instance (context : Value) (expression : Expression) : Decidable (expression.IsDefined context) :=
  decidable_of_iff _ isDefined_iff.symm

/-- The expressions up to and including the first that has no value in the context. -/
def upTo (context : Value) : List Expression → List Expression
  | [] => []
  | expression :: rest => expression :: if expression.IsDefined context then upTo context rest else []

variable {context other : Value} {expression : Expression} {expressions more : List Expression}

theorem upTo_append (h : ∀ expression ∈ expressions, expression.IsDefined context) (more : List Expression) :
    upTo context (expressions ++ more) = expressions ++ upTo context more := by
  induction expressions with
  | nil => rfl
  | cons first rest ih =>
      rw [List.forall_mem_cons] at h
      rw [List.cons_append, upTo, if_pos h.1, ih h.2, List.cons_append]

theorem upTo_prefix_append (context : Value) (expressions more : List Expression) :
    upTo context expressions <+: upTo context (expressions ++ more) := by
  induction expressions with
  | nil => exact List.nil_prefix
  | cons first rest ih =>
      rw [List.cons_append, upTo, upTo]
      split
      · exact List.cons_prefix_cons.mpr ⟨rfl, ih⟩
      · exact List.prefix_refl _

theorem upTo_of_isDefined (h : ∀ expression ∈ expressions, expression.IsDefined context) :
    upTo context expressions = expressions := by
  simpa [upTo] using upTo_append h []

/-- The two contexts have the same value for the expression, if any. -/
def Agrees (context other : Value) (expression : Expression) : Prop :=
  ∀ value, expression.what.Denotes other value ↔ expression.what.Denotes context value

theorem Agrees.value?_eq (h : expression.Agrees context other) :
    expression.what.value? other = expression.what.value? context := by
  apply Option.ext
  intro value
  rw [Reference.value?_eq_some_iff, Reference.value?_eq_some_iff]
  exact h value

end Expression

/-! ### What is taken -/

theorem Reference.any_isWord_iff {context : Value} {what : Reference} {word : Text} :
    (what.value? context).any (·.isWord word) = true ↔ what.Denotes context (.text word) := by
  have hword : ∀ value : Value, value.isWord word = true ↔ value = .text word := by
    intro value
    cases value with
    | text t => simp [Value.isWord]
    | _ => simp [Value.isWord]
  simp only [Option.any_eq_true, hword, ← Reference.value?_eq_some_iff, exists_eq_right]

theorem Reference.isWord_iff {context value : Value} {what : Reference} {word : Text}
    (h : what.value? context = some value) : value.isWord word = true ↔ what.Denotes context (.text word) := by
  rw [← any_isWord_iff, h, Option.any_some]

instance (context : Value) (what : Reference) (word : Text) : Decidable (what.Denotes context (.text word)) :=
  decidable_of_iff _ Reference.any_isWord_iff

def Piece.expressions : Piece → List Expression
  | .text _ => []
  | .hole what line => [⟨what, line⟩]

/-- The expressions of a block, those of a choice being its subject and what stands in the branch that is taken. -/
def Block.taken (context : Value) : Block → List Expression
  | .piece single => single.expressions
  | .choice subject word line same other =>
    ⟨subject, line⟩ :: (if subject.Denotes context (.text word) then same else other).flatMap Piece.expressions

def Template.taken (context : Value) (template : Template) : List Expression := template.flatMap (·.taken context)

/-! ### How rendering ends -/

/-- How rendering ends that comes across these expressions. -/
inductive Ends (context : Value) (expressions : List Expression) : Except Nat Text → Prop
  | rendered (text : Text) (h : ∀ expression ∈ expressions, expression.IsDefined context) :
      Ends context expressions (.ok text)
  | undefined {before after : List Expression} {expression : Expression}
      (hall : expressions = before ++ expression :: after) (hbefore : ∀ earlier ∈ before, earlier.IsDefined context)
      (h : ¬expression.IsDefined context) : Ends context expressions (.error expression.line)

section

variable {context other : Value} {expressions more : List Expression} {first second : Except Nat Text}

/-- What is rendered in front decides, unless it gives a text. -/
theorem Ends.append (h : Ends context expressions first) (h' : Ends context more second) :
    Ends context (expressions ++ more) (do
      let shown ← first
      let rest ← second
      return shown ++ rest) := by
  cases h with
  | undefined hall hbefore h =>
      rw [hall, List.append_assoc, List.cons_append]
      exact .undefined rfl hbefore h
  | rendered text h =>
      cases h' with
      | rendered text' h' => exact .rendered (text ++ text') (List.forall_mem_append.mpr ⟨h, h'⟩)
      | undefined hall hbefore h' =>
          rw [hall, ← List.append_assoc]
          exact .undefined rfl (List.forall_mem_append.mpr ⟨h, hbefore⟩) h'

theorem Ends.cons {expression : Expression} (hdefined : expression.IsDefined context)
    (h : Ends context expressions first) : Ends context (expression :: expressions) first := by
  cases h with
  | rendered text h => exact .rendered text (List.forall_mem_cons.mpr ⟨hdefined, h⟩)
  | @undefined before after next hall hbefore h =>
      rw [hall, ← List.cons_append]
      exact .undefined rfl (List.forall_mem_cons.mpr ⟨hdefined, hbefore⟩) h

theorem Ends.nil (text : Text) : Ends context [] (.ok text) := .rendered text fun _ h => absurd h List.not_mem_nil

theorem Ends.head {expression : Expression} (h : ¬expression.IsDefined context) (rest : List Expression) :
    Ends context (expression :: rest) (.error expression.line) :=
  .undefined (List.nil_append _).symm (fun _ hmem => absurd hmem List.not_mem_nil) h

theorem Piece.ends (context : Value) (piece : Piece) : Ends context piece.expressions (piece.render context) := by
  cases piece with
  | text t => exact .nil t
  | hole what line =>
      rw [Piece.render]
      cases hvalue : what.value? context with
      | none =>
          have hundefined : ¬Expression.IsDefined context ⟨what, line⟩ := by simp [Expression.isDefined_iff, hvalue]
          exact .head hundefined []
      | some value => exact .cons ⟨value, Reference.value?_eq_some_iff.mp hvalue⟩ (.nil value.alone)

theorem Piece.ends_renderAll (context : Value) (pieces : List Piece) :
    Ends context (pieces.flatMap Piece.expressions) (Piece.renderAll context pieces) := by
  induction pieces with
  | nil => exact .nil []
  | cons piece rest ih =>
      rw [List.flatMap_cons, Piece.renderAll]
      exact (piece.ends context).append ih

theorem Block.ends (context : Value) (block : Block) : Ends context (block.taken context) (block.render context) := by
  cases block with
  | piece single => exact single.ends context
  | choice subject word line same other =>
      rw [Block.render, Block.taken]
      cases hvalue : subject.value? context with
      | none =>
          have hundefined : ¬Expression.IsDefined context ⟨subject, line⟩ := by
            simp [Expression.isDefined_iff, hvalue]
          exact .head hundefined _
      | some value =>
          simp only [Reference.isWord_iff hvalue]
          exact .cons ⟨value, Reference.value?_eq_some_iff.mp hvalue⟩ (Piece.ends_renderAll context _)

theorem Template.ends (context : Value) (template : Template) :
    Ends context (template.taken context) (template.render context) := by
  induction template with
  | nil => exact .nil []
  | cons block rest ih =>
      rw [Template.render]
      exact (block.ends context).append ih

/-! ### What does not matter -/

theorem Ends.render_eq_append {first' second' : Except Nat Text} (h : Ends context expressions first)
    (hfirst : (∀ expression ∈ Expression.upTo context expressions, expression.Agrees context other) → first' = first)
    (hsecond : (∀ expression ∈ Expression.upTo context more, expression.Agrees context other) → second' = second)
    (hagree : ∀ expression ∈ Expression.upTo context (expressions ++ more), expression.Agrees context other) :
    (do
      let shown ← first'
      let rest ← second'
      return shown ++ rest) = (do
      let shown ← first
      let rest ← second
      return shown ++ rest) := by
  rw [hfirst fun expression hmem => hagree expression ((Expression.upTo_prefix_append _ _ _).subset hmem)]
  cases h with
  | undefined => rfl
  | rendered text h =>
      rw [Expression.upTo_append h, List.forall_mem_append] at hagree
      rw [hsecond hagree.2]

theorem Piece.render_eq {piece : Piece}
    (hagree : ∀ expression ∈ Expression.upTo context piece.expressions, expression.Agrees context other) :
    piece.render other = piece.render context := by
  cases piece with
  | text t => rfl
  | hole what line =>
      have hsame := (hagree ⟨what, line⟩ List.mem_cons_self).value?_eq
      rw [Piece.render, Piece.render, hsame]

theorem Piece.renderAll_eq {pieces : List Piece}
    (hagree : ∀ expression ∈ Expression.upTo context (pieces.flatMap Piece.expressions),
      expression.Agrees context other) : Piece.renderAll other pieces = Piece.renderAll context pieces := by
  induction pieces with
  | nil => rfl
  | cons piece rest ih =>
      rw [Piece.renderAll, Piece.renderAll]
      exact (piece.ends context).render_eq_append Piece.render_eq ih hagree

theorem Block.render_eq {block : Block}
    (hagree : ∀ expression ∈ Expression.upTo context (block.taken context), expression.Agrees context other) :
    block.render other = block.render context := by
  cases block with
  | piece single => exact Piece.render_eq hagree
  | choice subject word line same other' =>
      rw [Block.taken, Expression.upTo, List.forall_mem_cons] at hagree
      rw [Block.render, Block.render, hagree.1.value?_eq]
      cases hvalue : subject.value? context with
      | none => rfl
      | some value =>
          have hdefined : Expression.IsDefined context ⟨subject, line⟩ :=
            ⟨value, Reference.value?_eq_some_iff.mp hvalue⟩
          rw [if_pos hdefined] at hagree
          simp only [Reference.isWord_iff hvalue]
          exact Piece.renderAll_eq hagree.2

theorem Template.render_eq {template : Template}
    (hagree : ∀ expression ∈ Expression.upTo context (template.taken context), expression.Agrees context other) :
    template.render other = template.render context := by
  induction template with
  | nil => rfl
  | cons block rest ih =>
      rw [Template.render, Template.render]
      exact (block.ends context).render_eq_append Block.render_eq ih hagree

/-- What can be told of the end of rendering from the expressions that are reached. -/
theorem Ends.ok_iff (h : Ends context expressions first) : (∃ text, first = .ok text) ↔
    ∀ expression ∈ Expression.upTo context expressions, expression.IsDefined context := by
  cases h with
  | rendered text h =>
      rw [Expression.upTo_of_isDefined h]
      exact ⟨fun _ => h, fun _ => ⟨text, rfl⟩⟩
  | @undefined before after expression hall hbefore h =>
      constructor
      · rintro ⟨text, htext⟩
        cases htext
      · intro hdefined
        rw [hall, Expression.upTo_append hbefore] at hdefined
        exact absurd (hdefined expression (List.mem_append_right _ List.mem_cons_self)) h

theorem Ends.exists_of_not (h : Ends context expressions first)
    (hundefined : ¬∀ expression ∈ Expression.upTo context expressions, expression.IsDefined context) :
    ∃ before expression, Expression.upTo context expressions = before ++ [expression] ∧
      (∀ earlier ∈ before, earlier.IsDefined context) ∧ ¬expression.IsDefined context ∧
      first = .error expression.line := by
  rw [← h.ok_iff] at hundefined
  cases h with
  | rendered text h => exact absurd ⟨text, rfl⟩ hundefined
  | @undefined before after expression hall hbefore h =>
      refine ⟨before, expression, ?_, hbefore, h, rfl⟩
      rw [hall, Expression.upTo_append hbefore, Expression.upTo, if_neg h]

end

end Scaffold
