import Scaffold.Proofs.Name.Request

/-! Which requests are accepted, said of the letters of their names. A name is accepted if it is a letter or an
underscore with letters, digits and underscores behind it; a base class must moreover differ from the class
by more than the case of letters. All other requests are refused, for the class before the base. -/

namespace Scaffold

/-- `[A-Za-z_]` -/
def IsLetter (c : Char) : Prop := ('A' ≤ c ∧ c ≤ 'Z') ∨ ('a' ≤ c ∧ c ≤ 'z') ∨ c = '_'

/-- `[A-Za-z0-9_]` -/
def IsLetterOrDigit (c : Char) : Prop := IsLetter c ∨ ('0' ≤ c ∧ c ≤ '9')

/-- The text as a whole is `[A-Za-z_][A-Za-z0-9_]*`. -/
def IsPlainName (text : Text) : Prop :=
  ∃ first rest, text = first :: rest ∧ IsLetter first ∧ ∀ c ∈ rest, IsLetterOrDigit c

/-- The texts differ at most in the case of ASCII letters. -/
def SameLetters (s t : Text) : Prop := s.map Char.toLower = t.map Char.toLower

theorem isIdentifierStart_iff {c : Char} : isIdentifierStart c = true ↔ IsLetter c := by
  change ((decide (65 ≤ c.val ∧ c.val ≤ 90) || decide (97 ≤ c.val) && decide (c.val ≤ 122)) || c == '_') = true ↔
    (65 ≤ c.val ∧ c.val ≤ 90) ∨ (97 ≤ c.val ∧ c.val ≤ 122) ∨ c = '_'
  simp only [Bool.or_eq_true, Bool.and_eq_true, decide_eq_true_eq, beq_iff_eq, or_assoc]

theorem isIdentifierPart_iff {c : Char} : isIdentifierPart c = true ↔ IsLetterOrDigit c := by
  have hpart : isIdentifierPart c = ((c.isAlpha || (decide (48 ≤ c.val) && decide (c.val ≤ 57))) || c == '_') := rfl
  have hdigit : ('0' ≤ c ∧ c ≤ '9') ↔ (48 ≤ c.val ∧ c.val ≤ 57) := Iff.rfl
  rw [IsLetterOrDigit, ← isIdentifierStart_iff, hpart, hdigit, isIdentifierStart]
  simp only [Bool.or_eq_true, Bool.and_eq_true, decide_eq_true_eq]
  exact or_right_comm

theorem isIdentifier_iff {text : Text} : isIdentifier text = true ↔ IsPlainName text := by
  cases text with
  | nil =>
      constructor
      · intro h
        exact nomatch h
      · rintro ⟨first, rest, h, -⟩
        exact nomatch h
  | cons c cs =>
      rw [isIdentifier, Bool.and_eq_true, List.all_eq_true, isIdentifierStart_iff]
      constructor
      · rintro ⟨hc, hcs⟩
        exact ⟨c, cs, rfl, hc, fun d hd => isIdentifierPart_iff.mp (hcs d hd)⟩
      · rintro ⟨_, _, heq, hc, hcs⟩
        obtain ⟨rfl, rfl⟩ := List.cons.inj heq
        exact ⟨hc, fun d hd => isIdentifierPart_iff.mpr (hcs d hd)⟩

/-- The small forms of two identifiers agree exactly if the identifiers differ at most in case. -/
theorem lower_eq_iff_sameLetters {s t : Text} (hs : isIdentifier s = true) (ht : isIdentifier t = true) :
    Text.lower s = Text.lower t ↔ SameLetters s t := by
  rw [Text.lower_of_isAscii (isWord_of_isIdentifier hs).isAscii,
    Text.lower_of_isAscii (isWord_of_isIdentifier ht).isAscii]
  exact Iff.rfl

/-- What is wrong with a text that is no name. -/
def NameFault.ofText (text : Text) : NameFault := if text = [] then .empty else .noIdentifier text

theorem ClassName.parse_of_isPlainName {text : Text} (h : IsPlainName text) :
    ClassName.parse text = .ok (.derive text) :=
  parse_eq_ok_iff.mpr ⟨isIdentifier_iff.mpr h, rfl⟩

theorem ClassName.parse_of_not_isPlainName {text : Text} (h : ¬IsPlainName text) :
    ClassName.parse text = .error (.ofText text) := by
  rw [← isIdentifier_iff] at h
  rw [ClassName.parse, validateName, NameFault.ofText]
  by_cases hempty : text = []
  · rw [if_pos hempty, if_pos hempty]
    rfl
  · rw [if_neg hempty, if_neg hempty, if_neg h]
    rfl

namespace ClassRequest

/-- What a request must be like to be accepted. -/
structure IsAcceptable (request : ClassRequest) : Prop where
  className : IsPlainName request.className
  baseName : ∀ baseName, request.baseName = some baseName →
    IsPlainName baseName ∧ ¬SameLetters baseName request.className

/-- The fault for which a request is refused. The class is looked at first, then the name of the base class,
then whether the two are one. -/
inductive IsRefused (request : ClassRequest) : NameFault → Prop
  | className (h : ¬IsPlainName request.className) : IsRefused request (.ofText request.className)
  | baseName (hclass : IsPlainName request.className) {baseName : Text} (hbase : request.baseName = some baseName)
      (h : ¬IsPlainName baseName) : IsRefused request (.ofText baseName)
  | sameLetters (hclass : IsPlainName request.className) {baseName : Text}
      (hbase : request.baseName = some baseName) (hname : IsPlainName baseName)
      (h : SameLetters baseName request.className) :
      IsRefused request (.sameFiles (.derive request.className) (.derive baseName))

variable {request : ClassRequest}

theorem IsAcceptable.check (h : request.IsAcceptable) :
    request.check = .ok (.derive request.className, .ofBase (request.baseName.map ClassName.derive)) := by
  refine check_eq_ok_iff.mpr ⟨ClassName.parse_of_isPlainName h.className, ?_⟩
  cases hbase : request.baseName with
  | none => rfl
  | some baseName =>
      obtain ⟨hname, hletters⟩ := h.baseName baseName hbase
      refine Shape.select_some_eq_ok_iff.mpr ⟨.derive baseName, ClassName.parse_of_isPlainName hname, ?_, rfl⟩
      intro hlower
      exact hletters ((lower_eq_iff_sameLetters (isIdentifier_iff.mpr hname)
        (isIdentifier_iff.mpr h.className)).mp hlower)

theorem IsRefused.check {fault : NameFault} (h : request.IsRefused fault) : request.check = .error fault := by
  cases h with
  | className h =>
      rw [ClassRequest.check, ClassName.parse_of_not_isPlainName h]
      rfl
  | baseName hclass hbase h =>
      rw [ClassRequest.check, ClassName.parse_of_isPlainName hclass, hbase]
      simp only [bind, Except.bind, Shape.select, ClassName.parse_of_not_isPlainName h]
  | @sameLetters hclass baseName hbase hname h =>
      have hlower : (ClassName.derive baseName).lower = (ClassName.derive request.className).lower :=
        (lower_eq_iff_sameLetters (isIdentifier_iff.mpr hname) (isIdentifier_iff.mpr hclass)).mpr h
      rw [ClassRequest.check, ClassName.parse_of_isPlainName hclass, hbase]
      simp only [bind, Except.bind, Shape.select, ClassName.parse_of_isPlainName hname, hlower, if_true]

theorem isAcceptable_or_isRefused (request : ClassRequest) :
    request.IsAcceptable ∨ ∃ fault, request.IsRefused fault := by
  by_cases hclass : IsPlainName request.className
  · cases hbase : request.baseName with
    | none => exact Or.inl ⟨hclass, fun baseName h => by rw [hbase] at h; exact nomatch h⟩
    | some baseName =>
        by_cases hname : IsPlainName baseName
        · by_cases hletters : SameLetters baseName request.className
          · exact Or.inr ⟨_, .sameLetters hclass hbase hname hletters⟩
          · refine Or.inl ⟨hclass, fun baseName' h => ?_⟩
            obtain rfl := Option.some.inj (hbase.symm.trans h)
            exact ⟨hname, hletters⟩
        · exact Or.inr ⟨_, .baseName hclass hbase hname⟩
  · exact Or.inr ⟨_, .className hclass⟩

end ClassRequest

end Scaffold
