import Scaffold.Proofs.Artifact.FileName
import Scaffold.Proofs.Content

/-! Files and include guards of a class and its base class. They keep apart exactly if neither of the two
names is, in small letters, the other with `private` behind it: a class `FooPrivate` that is derived from
`Foo` has its public source where `Foo` has its private one, and its public guard is the private guard of
`Foo`. -/

namespace Scaffold

namespace ClassName

/-- The include guards of a class. -/
def guards (profile : Profile) (name : ClassName) : List Text := [name.guard profile, name.privateGuard profile]

/-- No file of the one class has the path of a file of the other, however the two paths are spelled. -/
def FilesApart (profile : Profile) (name other : ClassName) : Prop :=
  ∀ kind ∈ ArtifactKind.classSet, ∀ kind' ∈ ArtifactKind.classSet,
    Path.components (kind.path profile name) ≠ Path.components (kind'.path profile other)

/-- No include guard belongs to both classes. -/
def GuardsApart (profile : Profile) (name other : ClassName) : Prop :=
  ∀ g ∈ name.guards profile, g ∉ other.guards profile

/-- The class is called, in small letters, what the private files of the other are called. -/
def IsPrivateOf (name other : ClassName) : Prop := name.lower = other.lower ++ "private"

instance (profile : Profile) (name other : ClassName) : Decidable (FilesApart profile name other) :=
  inferInstanceAs (Decidable (∀ kind ∈ ArtifactKind.classSet, ∀ kind' ∈ ArtifactKind.classSet, _ ≠ _))

instance (profile : Profile) (name other : ClassName) : Decidable (GuardsApart profile name other) :=
  inferInstanceAs (Decidable (∀ g ∈ name.guards profile, g ∉ other.guards profile))

variable {name other : ClassName}

theorem isPrivateOf_iff_upper (hname : name.IsParsed) (hother : other.IsParsed) :
    name.IsPrivateOf other ↔ name.upper = other.upper ++ "PRIVATE" := by
  have hupper : Text.upper "private" = "PRIVATE" := by decide +kernel
  have hlower : Text.lower "PRIVATE" = "private" := by decide +kernel
  have hword : IsWord "PRIVATE" := IsWord.of_all (by decide +kernel)
  constructor
  · intro h
    rw [← hname.upper_lower, h, Text.upper_append, hother.upper_lower, hupper]
  · intro h
    rw [IsPrivateOf, ← hname.lower_upper, h, hother.upper_isWord.lower_append hword, hother.lower_upper, hlower]

/-! ### Files -/

theorem path_publicSource_of_isPrivateOf (profile : Profile) (h : name.IsPrivateOf other) :
    ArtifactKind.publicSource.path profile name = ArtifactKind.privateSource.path profile other := by
  have hstem : ArtifactKind.publicSource.stem name = ArtifactKind.privateSource.stem other := h
  rw [ArtifactKind.path, ArtifactKind.path, ArtifactKind.fileName_eq, ArtifactKind.fileName_eq, hstem]
  rfl

/-- If files of two classes have one name, the classes have one small form, or one of them is called what
the private files of the other are called. -/
theorem lower_eq_or_of_fileName_eq (hname : name.IsParsed) (hother : other.IsParsed) {kind kind' : ArtifactKind}
    (hkind : kind ∈ ArtifactKind.classSet) (hkind' : kind' ∈ ArtifactKind.classSet)
    (h : kind.fileName name = kind'.fileName other) :
    name.lower = other.lower ∨ name.IsPrivateOf other ∨ other.IsPrivateOf name := by
  obtain ⟨hstem, hextension⟩ := ArtifactKind.stem_extension_eq hname hother h
  cases kind <;> try exact absurd hkind (by decide)
  all_goals cases kind' <;> try exact absurd hkind' (by decide)
  all_goals try exact absurd hextension (by decide)
  case publicHeader.publicHeader | publicSource.publicSource => exact Or.inl hstem
  case privateHeader.privateHeader | privateSource.privateSource =>
    exact Or.inl (List.append_cancel_right hstem)
  case includeShim.includeShim =>
    have hpascal : name.pascal = other.pascal := hstem
    exact Or.inl (by rw [hname.lower_eq, hother.lower_eq, hpascal])
  case publicHeader.privateHeader | publicSource.privateSource => exact Or.inr (Or.inl hstem)
  case privateHeader.publicHeader | privateSource.publicSource => exact Or.inr (Or.inr hstem.symm)

theorem filesApart_iff (profile : Profile) (hname : name.IsParsed) (hother : other.IsParsed)
    (hlower : name.lower ≠ other.lower) :
    FilesApart profile name other ↔ ¬name.IsPrivateOf other ∧ ¬other.IsPrivateOf name := by
  constructor
  · intro h
    refine ⟨fun hprivate => ?_, fun hprivate => ?_⟩
    · exact h .publicSource (by decide) .privateSource (by decide)
        (congrArg Path.components (path_publicSource_of_isPrivateOf profile hprivate))
    · exact h .privateSource (by decide) .publicSource (by decide)
        (congrArg Path.components (path_publicSource_of_isPrivateOf profile hprivate).symm)
  · rintro ⟨hprivate, hprivate'⟩ kind hkind kind' hkind' h
    rw [ArtifactKind.components_path profile hname, ArtifactKind.components_path profile hother] at h
    have hfile : kind.fileName name = kind'.fileName other :=
      Path.Component.name.inj (List.cons.inj (List.append_inj' h rfl).2).1
    rcases lower_eq_or_of_fileName_eq hname hother hkind hkind' hfile with heq | heq | heq
    · exact hlower heq
    · exact hprivate heq
    · exact hprivate' heq

/-! ### Include guards -/

/-- The guard around the capital form of a name. -/
def guardOf (profile : Profile) (upper : Text) : Text := profile.guardPrefix ++ "_" ++ upper ++ "_H"

theorem guardOf_injective (profile : Profile) : Function.Injective (guardOf profile) := by
  intro upper upper' h
  exact List.append_cancel_left (List.append_cancel_right h)

theorem privateGuard_eq (profile : Profile) (name : ClassName) :
    name.privateGuard profile = guardOf profile (name.upper ++ "PRIVATE") := by
  have hend : ("PRIVATE_H" : String).toList = ("PRIVATE" : String).toList ++ ("_H" : String).toList := by
    decide +kernel
  rw [privateGuard, guardOf, hend]
  simp only [List.append_assoc]

theorem guardsApart_iff (profile : Profile) (hname : name.IsParsed) (hother : other.IsParsed)
    (hlower : name.lower ≠ other.lower) :
    GuardsApart profile name other ↔ ¬name.IsPrivateOf other ∧ ¬other.IsPrivateOf name := by
  have hupper : name.upper ≠ other.upper := fun h => hlower ((hname.upper_eq_iff hother).mp h)
  have hsuffix : name.upper ++ "PRIVATE" ≠ other.upper ++ "PRIVATE" := fun h => hupper (List.append_cancel_right h)
  rw [isPrivateOf_iff_upper hname hother, isPrivateOf_iff_upper hother hname, GuardsApart]
  have hguard : ∀ n : ClassName, n.guards profile =
      [guardOf profile n.upper, guardOf profile (n.upper ++ "PRIVATE")] := by
    intro n
    rw [guards, privateGuard_eq]
    rfl
  simp only [hguard, List.mem_cons, List.not_mem_nil, or_false, forall_eq_or_imp, forall_eq, not_or,
    (guardOf_injective profile).eq_iff, hupper, hsuffix, not_false_eq_true, true_and, and_true]
  exact and_congr_right fun _ => not_congr eq_comm

/-! ### A class and its base class -/

/-- Neither files nor include guards of an accepted class and its base class meet, unless one of the two is
called what the private files of the other are called; and then both do. -/
theorem apart_from_base_iff (profile : Profile) {className baseName : Text} {base : ClassName}
    (hname : ClassName.parse className = .ok name)
    (hbase : Shape.select name (some baseName) = .ok (.derived base)) :
    (FilesApart profile name base ↔ ¬name.IsPrivateOf base ∧ ¬base.IsPrivateOf name) ∧
    (GuardsApart profile name base ↔ ¬name.IsPrivateOf base ∧ ¬base.IsPrivateOf name) := by
  obtain ⟨base', hparse, hlower, hshape⟩ := Shape.select_some_eq_ok_iff.mp hbase
  obtain rfl := Shape.derived.inj hshape
  exact ⟨filesApart_iff profile (isParsed_of_parse hname) (isParsed_of_parse hparse) hlower.symm,
    guardsApart_iff profile (isParsed_of_parse hname) (isParsed_of_parse hparse) hlower.symm⟩

/-- The class `JobQueue` and its base class `Job` keep apart. -/
theorem apart_from_base_jobQueue :
    ClassName.parse "JobQueue" = .ok (.derive "JobQueue") ∧
    Shape.select (.derive "JobQueue") (some "Job") = .ok (.derived (.derive "Job")) ∧
    FilesApart .synqClient (.derive "JobQueue") (.derive "Job") ∧
    GuardsApart .synqClient (.derive "JobQueue") (.derive "Job") := by
  have hname : ClassName.parse "JobQueue" = .ok (.derive "JobQueue") :=
    parse_eq_ok_iff.mpr ⟨by decide +kernel, rfl⟩
  have hbase : Shape.select (.derive "JobQueue") (some "Job") = .ok (.derived (.derive "Job")) :=
    Shape.select_some_eq_ok_iff.mpr
      ⟨.derive "Job", parse_eq_ok_iff.mpr ⟨by decide +kernel, rfl⟩, by decide +kernel, rfl⟩
  have hprivate : ¬IsPrivateOf (.derive "JobQueue") (.derive "Job") ∧
      ¬IsPrivateOf (.derive "Job") (.derive "JobQueue") := by
    unfold IsPrivateOf
    decide +kernel
  have happart := apart_from_base_iff .synqClient hname hbase
  exact ⟨hname, hbase, happart.1.mpr hprivate, happart.2.mpr hprivate⟩

/-- The class `FooPrivate` with the base class `Foo` is accepted, and both a file and a guard of the one are
a file and a guard of the other. -/
theorem not_apart_fooPrivate :
    ClassName.parse "FooPrivate" = .ok (.derive "FooPrivate") ∧
    Shape.select (.derive "FooPrivate") (some "Foo") = .ok (.derived (.derive "Foo")) ∧
    ¬FilesApart .synqClient (.derive "FooPrivate") (.derive "Foo") ∧
    ¬GuardsApart .synqClient (.derive "FooPrivate") (.derive "Foo") := by
  refine ⟨parse_eq_ok_iff.mpr ⟨by decide +kernel, rfl⟩, Shape.select_some_eq_ok_iff.mpr
    ⟨.derive "Foo", parse_eq_ok_iff.mpr ⟨by decide +kernel, rfl⟩, by decide +kernel, rfl⟩, ?_, ?_⟩
  · decide +kernel
  · decide +kernel

end ClassName

end Scaffold
