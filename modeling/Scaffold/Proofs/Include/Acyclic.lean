import Scaffold.Proofs.Artifact.Apart
import Scaffold.Proofs.Include
import Scaffold.Proofs.Order

/-! Files that include themselves. The headers of a class come behind those of its base class, and these behind the
header of the library, in an order in which every file includes only what is ahead of it. The order is spoilt by
one thing: a class whose public header is the header of the library, which it then includes itself. -/

namespace Scaffold

/-- The path of the header of the library that every public header includes. -/
def Profile.globalPath (profile : Profile) : Text := Path.join profile.includeDir profile.globalHeader

/-- A file includes another if a name in quotes in it leads to the other, which is one of the files or the header of
the library. -/
def Includes (profile : Profile) (license : License) (files : List Artifact)
    (source target : List Path.Component) : Prop :=
  ∃ file ∈ files, Path.components file.path = source ∧
    ∃ path ∈ profile.globalPath :: files.map Artifact.path, Path.components path = target ∧
      ∃ body, file.body? license = some body ∧
        ∃ spelled ∈ Cpp.quotedIncludes body, Reaches profile file.path spelled path

/-- The path is that of a file in the directory of the public headers or in that of the sources. -/
def Profile.IsInside (profile : Profile) (path : Text) : Prop :=
  ∃ file, Path.components path = Path.components profile.includeDir ++ [.name file] ∨
    Path.components path = Path.components profile.sourceDir ++ [.name file]

variable {profile : Profile} {name other : ClassName} {shape : Shape} {kind kind' : ArtifactKind}

/-! ### What names lead to -/

theorem Profile.isInside_globalPath (hprofile : profile.IsLaidOut) : profile.IsInside profile.globalPath :=
  ⟨_, Or.inl (Path.components_join_name hprofile.isFileName_globalHeader _)⟩

theorem ArtifactKind.isInside_path (profile : Profile) (hname : name.IsParsed) (hkind : kind ∈ classSet) :
    profile.IsInside (kind.path profile name) := by
  have hpath := components_path profile hname kind
  cases kind with
  | publicHeader | includeShim => exact ⟨_, Or.inl hpath⟩
  | publicSource | privateHeader | privateSource => exact ⟨_, Or.inr hpath⟩
  | testProject | testRegistration | testSource => exact absurd hkind (by decide)

namespace Reaches

variable {file spelled target header fileName : Text}

/-- Of the files in both directories, a file name leads to no other than the one beside. -/
theorem target_of_beside (hprofile : profile.IsLaidOut) {directory : List Path.Component}
    (hdirectory : directory = Path.components profile.includeDir ∨ directory = Path.components profile.sourceDir)
    (hfile : Path.components file = directory ++ [.name fileName]) (hspelled : Path.IsFileName spelled)
    (htarget : profile.IsInside target) (h : Reaches profile file spelled target) :
    Path.components target = directory ++ [.name spelled] := by
  have hnames : Path.IsNames directory := by
    rcases hdirectory with rfl | rfl
    · exact hprofile.isNames_includeDir
    · exact hprofile.isNames_sourceDir
  rcases h with hbeside | hroot
  · rw [← hbeside, hfile, List.dropLast_concat, Path.resolve_name hnames hspelled]
  · rw [Path.resolve_name hprofile.isNames_includeRoot hspelled, profile.components_includeRoot] at hroot
    obtain ⟨x, hx | hx⟩ := htarget
    · rw [← hroot, hprofile.components_includeDir] at hx
      simp at hx
    · rw [← hroot, profile.components_sourceDir] at hx
      simp at hx

/-- Of the files in both directories, the name of a public header behind that of the library leads to no other. -/
theorem target_of_below (hprofile : profile.IsLaidOut) (hheader : Path.IsFileName header)
    (hfile : profile.IsInside file) (htarget : profile.IsInside target)
    (h : Reaches profile file (profile.nameSpace ++ '/' :: header) target) :
    Path.components target = Path.components profile.includeDir ++ [.name header] := by
  have hspace := hprofile.isFileName_nameSpace
  rcases h with hbeside | hroot
  · obtain ⟨y, hy⟩ := hfile
    obtain ⟨x, hx⟩ := htarget
    rcases hy with hy | hy
    · rw [hy, List.dropLast_concat, Path.resolve_slash hprofile.isNames_includeDir hspace hheader,
        hprofile.components_includeDir] at hbeside
      rw [← hbeside, hprofile.components_includeDir, profile.components_sourceDir] at hx
      simp at hx
    · rw [hy, List.dropLast_concat, Path.resolve_slash hprofile.isNames_sourceDir hspace hheader,
        profile.components_sourceDir] at hbeside
      rw [← hbeside, hprofile.components_includeDir, profile.components_sourceDir] at hx
      simp at hx
  · rw [← hroot, Path.resolve_slash hprofile.isNames_includeRoot hspace hheader, profile.components_includeRoot,
      hprofile.components_includeDir]
    simp only [List.append_assoc, List.cons_append, List.nil_append]

/-- A step up from the sources leads to the public header, and from the root of the public headers as well. -/
theorem target_of_up (hprofile : profile.IsLaidOut) (hheader : Path.IsFileName header)
    (hfile : Path.components file = Path.components profile.sourceDir ++ [.name fileName])
    (h : Reaches profile file ("../inc/" ++ (profile.nameSpace ++ '/' :: header)) target) :
    Path.components target = Path.components profile.includeDir ++ [.name header] := by
  have hresolved : Path.components target =
      Path.components profile.libraryDir ++ [.name "inc", .name profile.nameSpace, .name header] := by
    rcases h with hbeside | hroot
    · rw [← hbeside, hfile, List.dropLast_concat, profile.components_sourceDir, hprofile.resolve_up "src" hheader]
    · rw [← hroot, profile.components_includeRoot, hprofile.resolve_up "inc" hheader]
  rw [hresolved, hprofile.components_includeDir, List.append_assoc]
  rfl

end Reaches

/-- A name in quotes leads to a file that is meant to be included, or to none of those in both directories. -/
theorem ArtifactKind.exists_included_of_reaches (hprofile : profile.IsLaidOut) (hname : name.IsParsed)
    (hshape : shape.IsParsed) (hkind : kind ∈ classSet) {spelled target : Text}
    (hspelled : spelled ∈ kind.quoted profile name shape) (htarget : profile.IsInside target)
    (h : Reaches profile (kind.path profile name) spelled target) :
    ∃ path ∈ kind.included profile name shape.base?, Path.components target = Path.components path := by
  have hpath := fun kind => components_path profile hname kind
  have hfile := fun kind => isFileName_fileName hname kind
  have hinside := isInside_path profile hname hkind
  cases kind with
  | publicHeader =>
      rcases List.mem_append.mp hspelled with hbase | hglobal
      · cases shape with
        | root => exact absurd hbase List.not_mem_nil
        | derived base =>
            have hparsed : base.IsParsed := hshape base rfl
            obtain rfl := List.mem_singleton.mp hbase
            refine ⟨includeShim.path profile base, List.mem_cons_self, ?_⟩
            rw [Reaches.target_of_below hprofile (isFileName_fileName hparsed .includeShim) hinside htarget h]
            exact (components_path profile hparsed .includeShim).symm
      · obtain rfl := List.mem_singleton.mp hglobal
        refine ⟨profile.globalPath, List.mem_append_right _ (List.mem_singleton_self _), ?_⟩
        rw [Reaches.target_of_below hprofile hprofile.isFileName_globalHeader hinside htarget h]
        exact (Path.components_join_name hprofile.isFileName_globalHeader _).symm
  | includeShim =>
      obtain rfl := List.mem_singleton.mp hspelled
      refine ⟨publicHeader.path profile name, List.mem_singleton_self _, ?_⟩
      rw [Reaches.target_of_beside hprofile (Or.inl rfl) (hpath .includeShim) (hfile .publicHeader) htarget h]
      exact (hpath .publicHeader).symm
  | publicSource =>
      rcases List.mem_cons.mp hspelled with rfl | hprivate
      · refine ⟨publicHeader.path profile name, List.mem_cons_self, ?_⟩
        rw [Reaches.target_of_up hprofile (hfile .publicHeader) (hpath .publicSource) h]
        exact (hpath .publicHeader).symm
      · obtain rfl := List.mem_singleton.mp hprivate
        refine ⟨privateHeader.path profile name, List.mem_cons_of_mem _ (List.mem_singleton_self _), ?_⟩
        rw [Reaches.target_of_beside hprofile (Or.inr rfl) (hpath .publicSource) (hfile .privateHeader) htarget h]
        exact (hpath .privateHeader).symm
  | privateHeader =>
      rcases List.mem_append.mp hspelled with hbase | hpublic
      · cases shape with
        | root => exact absurd hbase List.not_mem_nil
        | derived base =>
            have hparsed : base.IsParsed := hshape base rfl
            obtain rfl := List.mem_singleton.mp hbase
            refine ⟨privateHeader.path profile base, List.mem_cons_self, ?_⟩
            rw [Reaches.target_of_beside hprofile (Or.inr rfl) (hpath .privateHeader)
              (isFileName_fileName hparsed .privateHeader) htarget h]
            exact (components_path profile hparsed .privateHeader).symm
      · obtain rfl := List.mem_singleton.mp hpublic
        refine ⟨publicHeader.path profile name, List.mem_append_right _ (List.mem_singleton_self _), ?_⟩
        rw [Reaches.target_of_below hprofile (hfile .publicHeader) hinside htarget h]
        exact (hpath .publicHeader).symm
  | privateSource =>
      obtain rfl := List.mem_singleton.mp hspelled
      refine ⟨privateHeader.path profile name, List.mem_singleton_self _, ?_⟩
      rw [Reaches.target_of_beside hprofile (Or.inr rfl) (hpath .privateSource) (hfile .privateHeader) htarget h]
      exact (hpath .privateHeader).symm
  | testProject | testRegistration | testSource => exact absurd hkind (by decide)

/-- What a planned file includes of the files in both directories it is meant to include. -/
theorem ArtifactKind.exists_included_of_planned (hprofile : profile.IsLaidOut) {license : License}
    (hname : name.IsParsed) (hshape : shape.IsParsed) (hkind : kind ∈ classSet) {body spelled target : Text}
    (hbody : (kind.planned profile (some license) name shape).body? license = some body)
    (hspelled : spelled ∈ Cpp.quotedIncludes body) (htarget : profile.IsInside target)
    (h : Reaches profile (kind.path profile name) spelled target) :
    ∃ path ∈ kind.included profile name shape.base?, Path.components target = Path.components path := by
  rw [kind.body?_planned] at hbody
  obtain rfl := Option.some.inj hbody
  rw [kind.quotedIncludes_lines hprofile hname hshape] at hspelled
  exact kind.exists_included_of_reaches hprofile hname hshape hkind hspelled htarget h

/-! ### An order of the files -/

/-- The headers of a class, each behind those that it includes. -/
def ArtifactKind.headers : List ArtifactKind := [.publicHeader, .includeShim, .privateHeader]

/-- The headers of a class that are ahead of a file of this class. -/
def ArtifactKind.ahead : ArtifactKind → List ArtifactKind
  | .publicHeader => []
  | .includeShim | .privateHeader => [.publicHeader]
  | _ => headers

/-- Where the headers of a class are. -/
def ClassName.headers (profile : Profile) (name : ClassName) : List (List Path.Component) :=
  ArtifactKind.headers.map fun kind => Path.components (kind.path profile name)

theorem Profile.components_includeDir_ne (hprofile : profile.IsLaidOut) :
    Path.components profile.includeDir ≠ Path.components profile.sourceDir := by
  intro h
  have hlength := congrArg List.length h
  rw [hprofile.components_includeDir, profile.components_sourceDir] at hlength
  simp at hlength

/-- A file of a class that has the path of a header of another is a file of a class with the same small form. -/
theorem ClassName.lower_eq_of_mem_headers (hprofile : profile.IsLaidOut) (hname : name.IsParsed)
    (hother : other.IsParsed) (hkind : kind ∈ ArtifactKind.classSet)
    (h : Path.components (kind.path profile name) ∈ other.headers profile) : name.lower = other.lower := by
  obtain ⟨kind', hkind', hpath⟩ := List.mem_map.mp h
  rw [ArtifactKind.components_path profile hname, ArtifactKind.components_path profile hother] at hpath
  obtain ⟨hdirectory, hlast⟩ := List.append_inj' hpath rfl
  obtain ⟨hstem, hextension⟩ :=
    ArtifactKind.stem_extension_eq hother hname (Path.Component.name.inj (List.cons.inj hlast).1)
  have hapart := Profile.components_includeDir_ne hprofile
  cases kind <;> try exact absurd hkind (by decide)
  all_goals cases kind' <;> try exact absurd hkind' (by decide)
  all_goals try exact absurd hextension (by decide)
  case publicHeader.publicHeader => exact hstem.symm
  case privateHeader.privateHeader => exact (List.append_cancel_right hstem).symm
  case includeShim.includeShim =>
    have hpascal : name.pascal = other.pascal := hstem.symm
    rw [hname.lower_eq, hother.lower_eq, hpascal]
  case publicHeader.privateHeader => exact absurd hdirectory.symm hapart
  case privateHeader.publicHeader => exact absurd hdirectory hapart

/-- The files of one class are in different places. -/
theorem ArtifactKind.eq_of_components_path_eq (hname : name.IsParsed) (hkind : kind ∈ classSet)
    (hkind' : kind' ∈ classSet)
    (h : Path.components (kind.path profile name) = Path.components (kind'.path profile name)) : kind = kind' := by
  rw [components_path profile hname, components_path profile hname] at h
  exact eq_of_fileName_eq hname (Or.inl ⟨hkind, hkind'⟩)
    (Path.Component.name.inj (List.cons.inj (List.append_inj' h rfl).2).1)

/-- A file of a class includes the header of the library, headers of the base class and own ones ahead of it. -/
theorem ArtifactKind.cases_of_mem_included (hkind : kind ∈ classSet) {base? : Option ClassName} {path : Text}
    (h : path ∈ kind.included profile name base?) :
    path = profile.globalPath ∨
    (∃ base, base? = some base ∧ ∃ kind' ∈ headers, path = kind'.path profile base) ∨
    (∃ kind' ∈ kind.ahead, path = kind'.path profile name) := by
  have hbase : ∀ kind' ∈ headers, path ∈ (base?.map (kind'.path profile)).toList →
      ∃ base, base? = some base ∧ ∃ kind' ∈ headers, path = kind'.path profile base := by
    intro kind' hkind' hmem
    obtain ⟨base, hbase, rfl⟩ := Option.map_eq_some_iff.mp (Option.mem_toList.mp hmem)
    exact ⟨base, hbase, kind', hkind', rfl⟩
  cases kind with
  | publicHeader =>
      rcases List.mem_append.mp h with hshim | hglobal
      · exact Or.inr (Or.inl (hbase .includeShim (by decide) hshim))
      · exact Or.inl (List.mem_singleton.mp hglobal)
  | includeShim =>
      exact Or.inr (Or.inr ⟨.publicHeader, by decide, List.mem_singleton.mp h⟩)
  | publicSource =>
      rcases List.mem_cons.mp h with hpublic | hprivate
      · exact Or.inr (Or.inr ⟨.publicHeader, by decide, hpublic⟩)
      · exact Or.inr (Or.inr ⟨.privateHeader, by decide, List.mem_singleton.mp hprivate⟩)
  | privateHeader =>
      rcases List.mem_append.mp h with hprivate | hpublic
      · exact Or.inr (Or.inl (hbase .privateHeader (by decide) hprivate))
      · exact Or.inr (Or.inr ⟨.publicHeader, by decide, List.mem_singleton.mp hpublic⟩)
  | privateSource =>
      exact Or.inr (Or.inr ⟨.privateHeader, by decide, List.mem_singleton.mp h⟩)
  | testProject | testRegistration | testSource => exact absurd hkind (by decide)

/-- Where the headers of a class follow the header of the library and those of its base class, what a file of the
class includes is ahead of the file. -/
theorem ArtifactKind.isAhead_included (hname : name.IsParsed) (hkind : kind ∈ classSet)
    {earlier later : List (List Path.Component)} (hglobal : Path.components profile.globalPath ∈ earlier)
    (hbase : ∀ base, shape.base? = some base → base.headers profile ⊆ earlier)
    (hfresh : Path.components (kind.path profile name) ∉ earlier) {path : Text}
    (hpath : path ∈ kind.included profile name shape.base?) :
    IsAhead (earlier ++ name.headers profile ++ later) (Path.components path)
      (Path.components (kind.path profile name)) := by
  have hheaders : kind.ahead <+: headers := by cases kind <;> decide
  have hahead : kind ∉ kind.ahead := by cases kind <;> decide
  have hclass : ∀ kind' ∈ headers, kind' ∈ classSet := by decide
  have hprefix : earlier ++ kind.ahead.map (fun kind => Path.components (kind.path profile name)) <+:
      earlier ++ name.headers profile ++ later := by
    rw [List.append_assoc]
    exact (List.prefix_append_right_inj _).mpr ((hheaders.map _).trans (List.prefix_append _ _))
  refine ⟨_, hprefix, ?_, ?_⟩
  · rw [List.mem_append]
    rcases kind.cases_of_mem_included hkind hpath with rfl | ⟨base, hsome, kind', hkind', rfl⟩ | ⟨kind', hkind', rfl⟩
    · exact Or.inl hglobal
    · exact Or.inl (hbase base hsome (List.mem_map_of_mem hkind'))
    · exact Or.inr (List.mem_map_of_mem hkind')
  · rw [List.mem_append, not_or]
    refine ⟨hfresh, fun hmem => ?_⟩
    obtain ⟨kind', hkind', heq⟩ := List.mem_map.mp hmem
    exact hahead (eq_of_components_path_eq hname (hclass _ (hheaders.subset hkind')) hkind heq ▸ hkind')

/-! ### Cycles -/

/-- No file of the class is the header of the library. -/
def ClassName.IsClear (profile : Profile) (name : ClassName) : Prop :=
  ∀ kind ∈ ArtifactKind.classSet, Path.components (kind.path profile name) ≠ Path.components profile.globalPath

/-- The files of a class. -/
def ClassName.files (profile : Profile) (license : License) (name : ClassName) (shape : Shape) : List Artifact :=
  ArtifactKind.classSet.map (ArtifactKind.planned profile (some license) name shape)

/-- The files of the base class, as a class without one. -/
def Shape.baseFiles (profile : Profile) (license : License) (shape : Shape) : List Artifact :=
  shape.choose [] fun base => base.files profile license .root

theorem ClassName.isInside_of_mem_files (profile : Profile) (license : License) (hname : name.IsParsed)
    {file : Artifact} (h : file ∈ name.files profile license shape) : profile.IsInside file.path := by
  obtain ⟨kind, hkind, rfl⟩ := List.mem_map.mp h
  exact kind.isInside_path profile hname hkind

/-- Where no file of a class is ahead of all its headers, every file includes what is ahead of it. -/
theorem ClassName.isAhead_of_reaches (hprofile : profile.IsLaidOut) {license : License} (hname : name.IsParsed)
    (hshape : shape.IsParsed) (earlier later : List (List Path.Component))
    (hglobal : Path.components profile.globalPath ∈ earlier)
    (hbase : ∀ base, shape.base? = some base → base.headers profile ⊆ earlier)
    (hfresh : ∀ kind ∈ ArtifactKind.classSet, Path.components (kind.path profile name) ∉ earlier)
    {file : Artifact} (hfile : file ∈ name.files profile license shape) {body spelled target : Text}
    (hbody : file.body? license = some body) (hspelled : spelled ∈ Cpp.quotedIncludes body)
    (htarget : profile.IsInside target) (h : Reaches profile file.path spelled target) :
    IsAhead (earlier ++ name.headers profile ++ later) (Path.components target) (Path.components file.path) := by
  obtain ⟨kind, hkind, rfl⟩ := List.mem_map.mp hfile
  obtain ⟨path, hpath, heq⟩ :=
    kind.exists_included_of_planned hprofile hname hshape hkind hbody hspelled htarget h
  rw [heq]
  exact kind.isAhead_included hname hkind hglobal hbase (hfresh kind hkind) hpath

/-- If no file of a class or of its base class is the header of the library, no file includes itself, be it by way
of others. -/
theorem acyclic_of_isClear (hprofile : profile.IsLaidOut) (license : License) (hname : name.IsParsed)
    (hshape : shape.IsParsed) (hlower : ∀ base, shape.base? = some base → name.lower ≠ base.lower)
    (hclear : name.IsClear profile) (hbase : ∀ base, shape.base? = some base → base.IsClear profile)
    (path : List Path.Component) :
    ¬Relation.TransGen (Includes profile license (name.files profile license shape ++ shape.baseFiles profile license))
      path path := by
  let earlier := Path.components profile.globalPath :: shape.choose [] (ClassName.headers profile)
  have hfresh : ∀ kind ∈ ArtifactKind.classSet, Path.components (kind.path profile name) ∉ earlier := by
    intro kind hkind hmem
    rcases List.mem_cons.mp hmem with hglobal | hheaders
    · exact hclear kind hkind hglobal
    · cases shape with
      | root => exact List.not_mem_nil hheaders
      | derived base =>
          exact hlower base rfl (ClassName.lower_eq_of_mem_headers hprofile hname (hshape base rfl) hkind hheaders)
  have hinside : ∀ target ∈ profile.globalPath ::
      (name.files profile license shape ++ shape.baseFiles profile license).map Artifact.path,
      profile.IsInside target := by
    intro target htarget
    rcases List.mem_cons.mp htarget with rfl | hmem
    · exact Profile.isInside_globalPath hprofile
    · obtain ⟨file, hfile, rfl⟩ := List.mem_map.mp hmem
      rcases List.mem_append.mp hfile with hown | hother
      · exact name.isInside_of_mem_files profile license hname hown
      · cases shape with
        | root => exact absurd hother List.not_mem_nil
        | derived base => exact base.isInside_of_mem_files profile license (hshape base rfl) hother
  refine not_transGen_self (earlier ++ name.headers profile) ?_ path
  rintro _ _ ⟨file, hfile, rfl, target, htarget, rfl, body, hbody, spelled, hspelled, hreaches⟩
  rcases List.mem_append.mp hfile with hown | hother
  · have hahead := name.isAhead_of_reaches hprofile hname hshape earlier [] List.mem_cons_self
      (fun base hsome => ?_) hfresh hown hbody hspelled (hinside target htarget) hreaches
    · rwa [List.append_nil] at hahead
    · cases shape with
      | root => exact nomatch hsome
      | derived base' =>
          obtain rfl := Option.some.inj hsome
          exact List.subset_cons_self _ _
  · cases shape with
    | root => exact absurd hother List.not_mem_nil
    | derived base =>
        refine base.isAhead_of_reaches hprofile (hshape base rfl) Shape.isParsed_root [_] (name.headers profile)
          (List.mem_singleton_self _) nofun ?_ hother hbody hspelled (hinside target htarget) hreaches
        exact fun kind hkind hmem => hbase base rfl kind hkind (List.mem_singleton.mp hmem)

/-- A public header that is the header of the library includes itself. -/
theorem includes_self (hprofile : profile.IsLaidOut) (license : License) (hname : name.IsParsed)
    (hshape : shape.IsParsed) {files : List Artifact} (hfiles : name.files profile license shape ⊆ files)
    (h : ArtifactKind.publicHeader.path profile name = profile.globalPath) :
    Includes profile license files (Path.components profile.globalPath) (Path.components profile.globalPath) := by
  have hmem : ArtifactKind.publicHeader.planned profile (some license) name shape ∈ files :=
    hfiles (List.mem_map_of_mem (by decide))
  refine ⟨_, hmem, congrArg Path.components h, _, List.mem_cons_self, rfl, _, ArtifactKind.body?_planned .., ?_⟩
  rw [ArtifactKind.quotedIncludes_lines hprofile hname hshape]
  exact ⟨_, List.mem_append_right _ (List.mem_singleton_self _),
    Reaches.below _ hprofile hprofile.isFileName_globalHeader
      (Path.components_join_name hprofile.isFileName_globalHeader _)⟩

/-! ### The library SynqClient -/

/-- The public header of the class is the header of the library. -/
def ClassName.IsGlobal (name : ClassName) : Prop := name.lower = "libsynqclient_global"

theorem Profile.globalHeader_synqClient :
    Profile.synqClient.globalHeader = ("libsynqclient_global" : Text) ++ ['.', 'h'] := by
  decide +kernel

theorem path_publicHeader_of_isGlobal (h : name.IsGlobal) :
    ArtifactKind.publicHeader.path .synqClient name = Profile.synqClient.globalPath := by
  rw [ArtifactKind.path, Profile.globalPath, ArtifactKind.fileName_eq, Profile.globalHeader_synqClient]
  exact congrArg (fun stem => Path.join Profile.synqClient.includeDir (stem ++ ['.', 'h'])) h

theorem isClear_iff (hname : name.IsParsed) : name.IsClear .synqClient ↔ ¬name.IsGlobal := by
  have hprofile := Profile.isLaidOut_synqClient
  constructor
  · intro h hglobal
    exact h .publicHeader (by decide) (congrArg Path.components (path_publicHeader_of_isGlobal hglobal))
  · intro h kind hkind hpath
    rw [ArtifactKind.components_path _ hname, Profile.globalPath,
      Path.components_join_name hprofile.isFileName_globalHeader] at hpath
    obtain ⟨hdirectory, hlast⟩ := List.append_inj' hpath rfl
    have hfile := Path.Component.name.inj (List.cons.inj hlast).1
    have hword : IsWord "libsynqclient_global" := IsWord.of_all (by decide +kernel)
    rw [ArtifactKind.fileName_eq, Profile.globalHeader_synqClient] at hfile
    obtain ⟨hstem, hextension⟩ := (kind.stem_isWord hname).append_inj hword kind.takeWhile_extension rfl hfile
    cases kind with
    | publicHeader => exact h hstem
    | privateHeader => exact absurd hdirectory.symm (Profile.components_includeDir_ne hprofile)
    | includeShim | publicSource | privateSource => exact absurd hextension (by decide)
    | testProject | testRegistration | testSource => exact absurd hkind (by decide)

/-- The plan for the base class, as a class without one. -/
def planBase (license : License) : Option Text → Told (List Artifact)
  | none => return []
  | some baseName => planClass Template.renderer .synqClient license ⟨baseName, none⟩

theorem planBase_result {license : License} {name : ClassName} {shape : Shape} {baseName : Option Text}
    (h : Shape.select name baseName = .ok shape) :
    (planBase license baseName).result = .ok (shape.baseFiles .synqClient license) := by
  cases baseName with
  | none =>
      obtain rfl : Shape.root = shape := Except.ok.inj h
      rfl
  | some text =>
      obtain ⟨base, hparse, -, rfl⟩ := Shape.select_some_eq_ok_iff.mp h
      exact planClass_result_eq_ok_iff.mpr ⟨base, .root, ClassRequest.check_eq_ok_iff.mpr ⟨hparse, rfl⟩, rfl⟩

/-- Together with the files of the base class and the header of the library, no file of an accepted class includes
itself, be it by way of others, exactly if neither class is called what the header of the library is called; and
no file of the class goes to the path of that header exactly if the class is not called so. -/
theorem acyclic_includes_iff {license : License} {request : ClassRequest} {files : List Artifact}
    (h : (planClass Template.renderer .synqClient license request).result = .ok files) :
    ∃ baseFiles, (planBase license request.baseName).result = .ok baseFiles ∧
      ((∀ path, ¬Relation.TransGen (Includes .synqClient license (files ++ baseFiles)) path path) ↔
        ∀ className ∈ request.className :: request.baseName.toList,
          Text.lower className ≠ "libsynqclient_global") ∧
      ((∀ file ∈ files, Path.components file.path ≠ Path.components Profile.synqClient.globalPath) ↔
        Text.lower request.className ≠ "libsynqclient_global") := by
  obtain ⟨name, shape, hcheck, rfl⟩ := planClass_result_eq_ok_iff.mp h
  obtain ⟨hparse, hselect⟩ := ClassRequest.check_eq_ok_iff.mp hcheck
  obtain ⟨hname, hshape, rfl, hbase⟩ := ClassRequest.accepts_of_check hcheck
  refine ⟨_, planBase_result hselect, ?_, ?_⟩
  · have hnames : (∀ className ∈ request.className :: request.baseName.toList,
        Text.lower className ≠ "libsynqclient_global") ↔
        ¬(ClassName.derive request.className).IsGlobal ∧ ∀ base, shape.base? = some base → ¬base.IsGlobal := by
      rw [List.forall_mem_cons, hbase]
      cases request.baseName with
      | none => simp [ClassName.IsGlobal, ClassName.derive]
      | some text => simp [ClassName.IsGlobal, ClassName.derive]
    rw [hnames]
    constructor
    · intro hacyclic
      refine ⟨fun hglobal => ?_, fun base hsome hglobal => ?_⟩
      · exact hacyclic _ (.single (includes_self Profile.isLaidOut_synqClient license hname hshape
          (List.subset_append_left _ _) (path_publicHeader_of_isGlobal hglobal)))
      · cases shape with
        | root => exact nomatch hsome
        | derived base' =>
            obtain rfl := Option.some.inj hsome
            exact hacyclic _ (.single (includes_self Profile.isLaidOut_synqClient license (hshape _ rfl)
              Shape.isParsed_root (List.subset_append_right _ _) (path_publicHeader_of_isGlobal hglobal)))
    · rintro ⟨hclear, hclearBase⟩
      refine acyclic_of_isClear Profile.isLaidOut_synqClient license hname hshape ?_ ((isClear_iff hname).mpr hclear)
        fun base hsome => (isClear_iff (hshape base hsome)).mpr (hclearBase base hsome)
      exact fun base hsome => (Shape.lower_ne_of_select hselect base hsome).symm
  · refine Iff.trans ?_ (isClear_iff hname)
    exact List.forall_mem_map

/-- Neither `JobQueue` nor its base class `Job` is called what the header of the library is called. -/
theorem acyclic_includes_jobQueue :
    let license : License := ⟨2024, "// 2024\n"⟩
    ∃ files, (planClass Template.renderer .synqClient license ⟨"JobQueue", some "Job"⟩).result = .ok files ∧
    ∃ baseFiles, (planBase license (some "Job")).result = .ok baseFiles ∧
      (∀ path, ¬Relation.TransGen (Includes .synqClient license (files ++ baseFiles)) path path) ∧
      ∀ file ∈ files, Path.components file.path ≠ Path.components Profile.synqClient.globalPath := by
  intro license
  have hcheck : ClassRequest.check ⟨"JobQueue", some "Job"⟩ = .ok (.derive "JobQueue", .derived (.derive "Job")) :=
    ClassRequest.check_of_isIdentifier (by decide +kernel) (by decide +kernel) (by decide +kernel)
  have hplan : (planClass Template.renderer .synqClient license ⟨"JobQueue", some "Job"⟩).result = .ok _ :=
    planClass_result_eq_ok_iff.mpr ⟨_, _, hcheck, rfl⟩
  obtain ⟨baseFiles, hbase, hacyclic, hpaths⟩ := acyclic_includes_iff hplan
  have hnames : ∀ className ∈ (["JobQueue", "Job"] : List Text), Text.lower className ≠ "libsynqclient_global" := by
    decide +kernel
  exact ⟨_, hplan, baseFiles, hbase, hacyclic.mpr hnames, hpaths.mpr (hnames _ List.mem_cons_self)⟩

/-- The class `libsynqclient_global` is accepted; its public header goes to the path of the header of the library,
and what it includes there is itself. -/
theorem not_acyclic_libsynqclient_global :
    let license : License := ⟨2024, "// 2024\n"⟩
    ∃ files, (planClass Template.renderer .synqClient license ⟨"libsynqclient_global", none⟩).result = .ok files ∧
    ∃ baseFiles, (planBase license none).result = .ok baseFiles ∧
      (∃ path, Relation.TransGen (Includes .synqClient license (files ++ baseFiles)) path path) ∧
      ∃ file ∈ files, file.path = Profile.synqClient.globalPath := by
  intro license
  have hparse : ClassName.parse "libsynqclient_global" = .ok (.derive "libsynqclient_global") :=
    ClassName.parse_eq_ok_iff.mpr ⟨by decide +kernel, rfl⟩
  have hcheck : ClassRequest.check ⟨"libsynqclient_global", none⟩ = .ok (.derive "libsynqclient_global", .root) :=
    ClassRequest.check_eq_ok_iff.mpr ⟨hparse, rfl⟩
  have hplan : (planClass Template.renderer .synqClient license ⟨"libsynqclient_global", none⟩).result =
      .ok ((ClassName.derive "libsynqclient_global").files .synqClient license .root) :=
    planClass_result_eq_ok_iff.mpr ⟨_, _, hcheck, rfl⟩
  have hglobal : (ClassName.derive "libsynqclient_global").IsGlobal := by
    unfold ClassName.IsGlobal
    decide +kernel
  have hheader := path_publicHeader_of_isGlobal hglobal
  have hself := includes_self Profile.isLaidOut_synqClient license (ClassName.isParsed_of_parse hparse)
    Shape.isParsed_root (List.subset_append_left _ []) hheader
  exact ⟨_, hplan, [], rfl, ⟨_, .single hself⟩, _, List.mem_map_of_mem List.mem_cons_self, hheader⟩

end Scaffold
