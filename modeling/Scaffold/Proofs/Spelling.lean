import Scaffold.Proofs.Content
import Scaffold.Proofs.Name.Request

/-! Conventions that are spelled as source code needs them. With such conventions and accepted names, what
stands in the place of a name in a file is an identifier, and no line of a file holds the end of another. -/

namespace Scaffold

/-- What the files of a class take from the conventions of the library is an identifier, the name of the
global header apart, in which dots may stand. -/
structure Profile.IsSpelled (profile : Profile) : Prop where
  nameSpace : isIdentifier profile.nameSpace = true
  exportMacro : isIdentifier profile.exportMacro = true
  globalHeader : (profile.globalHeader.all fun c => isIdentifierPart c || c == '.') = true
  rootBase : isIdentifier profile.rootBase = true
  guardPrefix : isIdentifier profile.guardPrefix = true

theorem Profile.isSpelled_synqClient : Profile.synqClient.IsSpelled := by
  constructor
  all_goals decide +kernel

namespace ClassName

variable {profile : Profile} {name : ClassName}

theorem isIdentifier_privateType (hname : name.IsParsed) : isIdentifier name.privateType = true := by
  have hprivate : IsWord "Private" := IsWord.of_all (by decide +kernel)
  exact isIdentifier_append hname.isIdentifier hprivate

theorem isIdentifier_guard (hprofile : profile.IsSpelled) (hname : name.IsParsed) :
    isIdentifier (name.guard profile) = true := by
  have hjoint : IsWord "_" := IsWord.of_all (by decide +kernel)
  have hend : IsWord "_H" := IsWord.of_all (by decide +kernel)
  rw [guard, List.append_assoc, List.append_assoc]
  exact isIdentifier_append hprofile.guardPrefix (hjoint.append (hname.upper_isWord.append hend))

theorem isIdentifier_privateGuard (hprofile : profile.IsSpelled) (hname : name.IsParsed) :
    isIdentifier (name.privateGuard profile) = true := by
  have hjoint : IsWord "_" := IsWord.of_all (by decide +kernel)
  have hend : IsWord "PRIVATE_H" := IsWord.of_all (by decide +kernel)
  rw [privateGuard, List.append_assoc, List.append_assoc]
  exact isIdentifier_append hprofile.guardPrefix (hjoint.append (hname.upper_isWord.append hend))

end ClassName

theorem Text.isLine_toList {s : String} (hs : s.toList.all (fun c => c ≠ '\n' && c ≠ '\r') = true) :
    Text.isLine s.toList = true := hs

theorem Profile.IsSpelled.globalHeader_isLine {profile : Profile} (hprofile : profile.IsSpelled) :
    Text.isLine profile.globalHeader = true := by
  rw [Text.isLine, List.all_eq_true]
  intro c hc
  have hspelled := List.all_eq_true.mp hprofile.globalHeader c hc
  rw [Bool.or_eq_true, beq_iff_eq] at hspelled
  rcases hspelled with hpart | rfl
  · have hword : IsWord [c] := fun d hd => List.mem_singleton.mp hd ▸ hpart
    exact List.all_eq_true.mp (Text.isLine_of_isWord hword) c List.mem_cons_self
  · decide

/-- Every line of a file is one line. -/
theorem ArtifactKind.lines_isLine {profile : Profile} (hprofile : profile.IsSpelled) {name : ClassName}
    (hname : name.IsParsed) {shape : Shape} (hshape : shape.IsParsed) (kind : ArtifactKind)
    (hregistered : kind = .testRegistration → Text.isLine profile.testRegistrationMacro = true) :
    ∀ line ∈ kind.lines profile name shape, Text.isLine line = true := by
  have hspace := Text.isLine_of_isWord (isWord_of_isIdentifier hprofile.nameSpace)
  have hexport := Text.isLine_of_isWord (isWord_of_isIdentifier hprofile.exportMacro)
  have hglobal := hprofile.globalHeader_isLine
  have hroot := Text.isLine_of_isWord (isWord_of_isIdentifier hprofile.rootBase)
  have hprefix := Text.isLine_of_isWord (isWord_of_isIdentifier hprofile.guardPrefix)
  have hpascal := Text.isLine_of_isWord hname.pascal_isWord
  have hlower := Text.isLine_of_isWord hname.lower_isWord
  have hupper := Text.isLine_of_isWord hname.upper_isWord
  have hbase : Text.isLine (shape.choose name id).pascal = true ∧
      Text.isLine (shape.choose name id).lower = true := by
    cases shape with
    | root => exact ⟨hpascal, hlower⟩
    | derived base =>
        have hparsed : base.IsParsed := hshape base rfl
        exact ⟨Text.isLine_of_isWord hparsed.pascal_isWord, Text.isLine_of_isWord hparsed.lower_isWord⟩
  obtain ⟨hbasePascal, hbaseLower⟩ := hbase
  cases kind
  case testRegistration =>
    simp (disch := decide) only [-String.reduceToList, ArtifactKind.lines, Content.testRegistration,
      List.forall_mem_singleton, Text.isLine_append, Text.isLine_toList, hregistered rfl, hlower, Bool.and_self]
  all_goals cases shape
  all_goals
    simp only [Shape.choose_root, Shape.choose_derived, id_eq] at hbasePascal hbaseLower
    simp (disch := decide) only [-String.reduceToList, ArtifactKind.lines, Content.publicHeader,
      Content.includeShim, Content.publicSource, Content.privateHeader, Content.privateSource,
      Content.testProject, Content.testSource, ClassName.guard, ClassName.privateGuard, ClassName.privateType,
      Shape.choose_root, Shape.choose_derived, List.forall_mem_append, List.forall_mem_cons,
      Text.isLine_append, Text.isLine_toList, hspace, hexport, hglobal, hroot, hprefix, hpascal, hlower, hupper,
      hbasePascal, hbaseLower, Bool.and_self, List.not_mem_nil, false_implies, implies_true, and_self]

end Scaffold
