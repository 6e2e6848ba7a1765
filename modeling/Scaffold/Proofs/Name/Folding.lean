import Scaffold.Proofs.Artifact.Apart
import Scaffold.Proofs.Inheritance
import Scaffold.Proofs.Name.Acceptance
import Scaffold.Proofs.Text.Folding

/-! The spellings of a name. Of any text whatever, the small and the capital spelling are settled: spelled again, they
stay what they are. Those of a name are names themselves, and each says what the other is, so that whether two names
are one but for the case of their letters can be asked of either spelling. What the private files of a class are
called, and how they are guarded, are spellings of its private type. -/

namespace Scaffold

theorem validateName_eq_ok_iff {text : Text} : validateName text = .ok () ↔ isIdentifier text = true := by
  have hparse : validateName text = .ok () ↔ ClassName.parse text = .ok (.derive text) := by
    rw [ClassName.parse]
    cases validateName text with
    | error fault =>
        constructor
        · intro h
          cases h
        · intro h
          cases h
    | ok _ => exact ⟨fun _ => rfl, fun _ => rfl⟩
  rw [hparse, ClassName.parse_eq_ok_iff, and_iff_left rfl]

theorem isIdentifierStart_toLower {c : Char} (hc : isIdentifierStart c = true) : isIdentifierStart c.toLower = true :=
  of_ascii (p := fun c => isIdentifierStart c = true → isIdentifierStart c.toLower = true) (by decide)
    (toNat_lt_of_isIdentifierPart (isIdentifierPart_of_isIdentifierStart hc)) hc

theorem isIdentifierStart_toUpper {c : Char} (hc : isIdentifierStart c = true) : isIdentifierStart c.toUpper = true :=
  of_ascii (p := fun c => isIdentifierStart c = true → isIdentifierStart c.toUpper = true) (by decide)
    (toNat_lt_of_isIdentifierPart (isIdentifierPart_of_isIdentifierStart hc)) hc

/-- What takes characters of identifiers to such characters takes identifiers to identifiers. -/
theorem isIdentifier_map {f : Char → Char} (hstart : ∀ c, isIdentifierStart c = true → isIdentifierStart (f c) = true)
    (hpart : ∀ c, isIdentifierPart c = true → isIdentifierPart (f c) = true) {name : Text}
    (hname : isIdentifier name = true) : isIdentifier (name.map f) = true := by
  cases name with
  | nil => exact absurd hname (by decide)
  | cons c cs =>
      rw [isIdentifier, Bool.and_eq_true, List.all_eq_true] at hname
      rw [List.map_cons, isIdentifier, Bool.and_eq_true, List.all_map, List.all_eq_true]
      exact ⟨hstart c hname.1, fun d hd => hpart d (hname.2 d hd)⟩

/-- A fold takes a name to a name as long, with the same letters, that it takes to itself. -/
structure FoldsName (fold : Text → Text) (name : Text) : Prop where
  accepted : validateName (fold name) = .ok ()
  length_eq : (fold name).length = name.length
  sameLetters : SameLetters (fold name) name
  settled : fold (fold name) = fold name

variable {name other : Text}

/-- A fold that works on a name character by character, and keeps what characters of names are. -/
theorem FoldsName.of_map {fold : Text → Text} {f : Char → Char} (hname : isIdentifier name = true)
    (hfold : fold name = name.map f) (hstart : ∀ c, isIdentifierStart c = true → isIdentifierStart (f c) = true)
    (hpart : ∀ c, isIdentifierPart c = true → isIdentifierPart (f c) = true)
    (hlower : Text.lower (fold name) = Text.lower name) (hsettled : fold (fold name) = fold name) :
    FoldsName fold name := by
  have hfolded : isIdentifier (fold name) = true := by
    rw [hfold]
    exact isIdentifier_map hstart hpart hname
  refine ⟨validateName_eq_ok_iff.mpr hfolded, ?_, (lower_eq_iff_sameLetters hfolded hname).mp hlower, hsettled⟩
  rw [hfold, List.length_map]

theorem foldsName_lower (hname : isIdentifier name = true) : FoldsName Text.lower name :=
  .of_map hname (Text.lower_of_isAscii (isWord_of_isIdentifier hname).isAscii) (fun _ => isIdentifierStart_toLower)
    (fun _ => isIdentifierPart_toLower) (Text.lower_lower name) (Text.lower_lower name)

theorem foldsName_upper (hname : isIdentifier name = true) : FoldsName Text.upper name :=
  .of_map hname (Text.upper_of_isAscii (isWord_of_isIdentifier hname).isAscii) (fun _ => isIdentifierStart_toUpper)
    (fun _ => isIdentifierPart_toUpper) (isWord_of_isIdentifier hname).lower_upper (Text.upper_upper name)

namespace ClassName

/-! ### Any text -/

/-- A small spelling is its own small spelling, a capital one its own capital spelling. Two texts side by side are
spelled each for itself, in small letters at least where no capital sigma stands in either. -/
theorem derive_again_and_append (text s t : Text) :
    (derive (derive text).lower).lower = (derive text).lower ∧
    (derive (derive text).upper).upper = (derive text).upper ∧
    (derive (s ++ t)).upper = (derive s).upper ++ (derive t).upper ∧
    (Text.capitalSigma ∉ s → Text.capitalSigma ∉ t →
      (derive (s ++ t)).lower = (derive s).lower ++ (derive t).lower) :=
  ⟨Text.lower_lower text, Text.upper_upper text, Text.upper_append s t, Text.lower_append⟩

/-- Letters that grow when they are folded, and a sigma at the end of a word. -/
theorem derive_again_and_append_growing :
    (derive (derive "ὈΔΥΣΣΕΎΣ").lower).lower = (derive "ὈΔΥΣΣΕΎΣ").lower ∧
    (derive (derive "Straße").upper).upper = (derive "Straße").upper ∧
    (derive ("İ" ++ "ß")).upper = (derive "İ").upper ++ (derive "ß").upper ∧
    Text.capitalSigma ∉ ("İ" : Text) ∧ Text.capitalSigma ∉ ("ß" : Text) ∧
    (derive ("İ" ++ "ß")).lower = (derive "İ").lower ++ (derive "ß").lower := by
  have hfirst : Text.capitalSigma ∉ ("İ" : Text) := by decide
  have hsecond : Text.capitalSigma ∉ ("ß" : Text) := by decide
  obtain ⟨hlower, -, hupperAppend, hlowerAppend⟩ := derive_again_and_append "ὈΔΥΣΣΕΎΣ" "İ" "ß"
  obtain ⟨-, hupper, -, -⟩ := derive_again_and_append "Straße" "İ" "ß"
  exact ⟨hlower, hupper, hupperAppend, hfirst, hsecond, hlowerAppend hfirst hsecond⟩

/-! ### Names -/

theorem isParsed_derive (hname : isIdentifier name = true) : (derive name).IsParsed := ⟨hname, rfl⟩

theorem lower_append_private (hname : isIdentifier name = true) :
    (derive (name ++ "Private")).lower = (derive name).lower ++ "private" := by
  have hlower : Text.lower "Private" = "private" := by decide
  have hsigma : Text.capitalSigma ∉ name := (isWord_of_isIdentifier hname).notMem (by decide)
  calc Text.lower (name ++ "Private") = Text.lower name ++ Text.lower "Private" := Text.lower_append hsigma (by decide)
    _ = Text.lower name ++ "private" := by rw [hlower]

theorem upper_append_private (name : Text) :
    (derive (name ++ "Private")).upper = (derive name).upper ++ "PRIVATE" := by
  have hupper : Text.upper "Private" = "PRIVATE" := by decide
  calc Text.upper (name ++ "Private") = Text.upper name ++ Text.upper "Private" := Text.upper_append name "Private"
    _ = Text.upper name ++ "PRIVATE" := by rw [hupper]

theorem privateGuard_derive (profile : Profile) (name : Text) :
    (derive name).privateGuard profile = (derive (name ++ "Private")).guard profile := by
  rw [privateGuard_eq, ← upper_append_private]
  rfl

theorem guard_eq_iff (profile : Profile) {name other : ClassName} :
    name.guard profile = other.guard profile ↔ name.upper = other.upper :=
  (guardOf_injective profile).eq_iff

/-- The files of a class are called and guarded by the spellings of its two types. -/
structure SpellFiles (profile : Profile) (type privateType : ClassName) (files : List Artifact) : Prop where
  publicHeader : ∃ header ∈ files, header.kind = .publicHeader ∧
    ("#ifndef " : Text) ++ type.guard profile ++ ['\n'] <:+: header.content
  privateHeader : ∃ header ∈ files, header.kind = .privateHeader ∧
    header.path = Path.join profile.sourceDir (privateType.lower ++ ".h") ∧
    ("#ifndef " : Text) ++ privateType.guard profile ++ ['\n'] <:+: header.content
  privateSource : ∃ source ∈ files, source.kind = .privateSource ∧
    source.path = Path.join profile.sourceDir (privateType.lower ++ ".cpp")

theorem spellFiles_of_planned {profile : Profile} {license : License} {baseName : Option Text}
    {files : List Artifact} (hname : isIdentifier name = true)
    (hplan : (planClass Template.renderer profile license ⟨name, baseName⟩).result = .ok files) :
    SpellFiles profile (derive name) (derive (name ++ "Private")) files := by
  obtain ⟨class_, shape, hcheck, rfl⟩ := planClass_result_eq_ok_iff.mp hplan
  obtain rfl := (ClassRequest.accepts_of_check hcheck).name_eq
  have hmem : ∀ kind ∈ ArtifactKind.classSet, kind.planned profile (some license) (derive name) shape ∈
      ArtifactKind.classSet.map (ArtifactKind.planned profile (some license) (derive name) shape) :=
    fun kind => List.mem_map_of_mem
  have hprivate := lower_append_private hname
  refine ⟨⟨_, hmem .publicHeader (by decide), rfl, ?_⟩, ⟨_, hmem .privateHeader (by decide), rfl, ?_, ?_⟩,
    ⟨_, hmem .privateSource (by decide), rfl, ?_⟩⟩
  · exact ArtifactKind.publicHeader.line_infix_planned license List.mem_cons_self
  · rw [hprivate, List.append_assoc]
    rfl
  · rw [← privateGuard_derive]
    exact ArtifactKind.privateHeader.line_infix_planned license List.mem_cons_self
  · rw [hprivate, List.append_assoc]
    rfl

/-- The test on small spellings refuses exactly those base classes that share the guard of the class. -/
theorem select_eq_ite_guard (profile : Profile) (hname : isIdentifier name = true)
    (hother : isIdentifier other = true) :
    Shape.select (derive name) (some other) =
      if (derive other).guard profile = (derive name).guard profile then
        .error (.sameFiles (derive name) (derive other))
      else .ok (.derived (derive other)) := by
  have hparse : ClassName.parse other = .ok (derive other) := parse_eq_ok_iff.mpr ⟨hother, rfl⟩
  have hguard : (derive other).guard profile = (derive name).guard profile ↔
      (derive other).lower = (derive name).lower :=
    (guard_eq_iff profile).trans ((isParsed_derive hother).upper_eq_iff (isParsed_derive hname))
  rw [Shape.select, hparse]
  simp only [hguard]

/-- The spellings of an accepted name are accepted names as long, which differ from it in the case of letters only and
each of which says what the other is. Those of the private type are those of the class with `private` behind them,
and files are called and guarded by them. Two accepted names have one small spelling exactly if they have one
capital spelling, exactly if they are one but for the case of letters; hence a base class is refused exactly if its
public header has the guard of that of the class. -/
theorem spellings_of_accepted (profile : Profile) (hname : validateName name = .ok ())
    (hother : validateName other = .ok ()) :
    FoldsName (fun text => (derive text).lower) name ∧
    FoldsName (fun text => (derive text).upper) name ∧
    (derive (derive name).upper).lower = (derive name).lower ∧
    (derive (derive name).lower).upper = (derive name).upper ∧
    (derive (name ++ "Private")).lower = (derive name).lower ++ "private" ∧
    (derive (name ++ "Private")).upper = (derive name).upper ++ "PRIVATE" ∧
    (∀ license baseName files,
      (planClass Template.renderer profile license ⟨name, baseName⟩).result = .ok files →
      SpellFiles profile (derive name) (derive (name ++ "Private")) files) ∧
    ((derive name).lower = (derive other).lower ↔ (derive name).upper = (derive other).upper) ∧
    ((derive name).lower = (derive other).lower ↔ SameLetters name other) ∧
    Shape.select (derive name) (some other) =
      if (derive other).guard profile = (derive name).guard profile then
        .error (.sameFiles (derive name) (derive other))
      else .ok (.derived (derive other)) := by
  rw [validateName_eq_ok_iff] at hname hother
  have hparsed := isParsed_derive hname
  exact ⟨foldsName_lower hname, foldsName_upper hname, hparsed.lower_upper, hparsed.upper_lower,
    lower_append_private hname, upper_append_private name, fun _ _ _ => spellFiles_of_planned hname,
    (hparsed.upper_eq_iff (isParsed_derive hother)).symm, lower_eq_iff_sameLetters hname hother,
    select_eq_ite_guard profile hname hother⟩

/-- A class and the same name in other letters, which it is not let derive from. -/
theorem spellings_of_accepted_jobQueue :
    validateName "JobQueue" = .ok () ∧ validateName "jobQUEUE" = .ok () ∧
    FoldsName (fun text => (derive text).lower) "JobQueue" ∧
    FoldsName (fun text => (derive text).upper) "JobQueue" ∧
    (derive ("JobQueue" ++ "Private")).lower = "jobqueueprivate" ∧
    (derive ("JobQueue" ++ "Private")).upper = "JOBQUEUEPRIVATE" ∧
    SameLetters "JobQueue" "jobQUEUE" ∧
    Shape.select (derive "JobQueue") (some "jobQUEUE") =
      .error (.sameFiles (derive "JobQueue") (derive "jobQUEUE")) := by
  have hname : validateName "JobQueue" = .ok () := validateName_eq_ok_iff.mpr (by decide)
  have hother : validateName "jobQUEUE" = .ok () := validateName_eq_ok_iff.mpr (by decide)
  obtain ⟨hlower, hupper, -, -, hlowerPrivate, hupperPrivate, -, -, hletters, hselect⟩ :=
    spellings_of_accepted .synqClient hname hother
  have hsame : (derive "JobQueue").lower = (derive "jobQUEUE").lower := by decide
  refine ⟨hname, hother, hlower, hupper, hlowerPrivate.trans (by decide),
    hupperPrivate.trans (by decide), hletters.mp hsame, hselect.trans (if_pos ?_)⟩
  decide

end ClassName

end Scaffold
