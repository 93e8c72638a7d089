import EntityGen.Generate
import EntityGen.Proofs.Growth
import EntityGen.Proofs.Plan.Basic

/-! # Where files lie

The places of the files of a plan, which follow from the names of the roots and the configuration
(`files_of_planFor`).

* `SourceFile.below_iff`: a file lies below the output directory, wherever that is, exactly if its
  path is an inner one.
* `SourceFile.landing_eq_iff`: without separators in their names, two files lie at one place exactly
  if their directories and types have the same names. -/

namespace EntityGen

namespace SourceFile

/-- Where the path of the file leads from the directory at `current`. -/
def landing (current : Place) (root : String) (f : SourceFile) : Place :=
  Path.resolve current (f.pathIn root)

/-- The places of the directories that are made for the file. -/
def passage (current : Place) (root : String) (f : SourceFile) : List Place :=
  Path.passage current (f.pathIn root)

/-- A path that is not absolute leads on from where the output directory is. -/
theorem landing_of_relative {f : SourceFile}
    (h : Path.isAbsolute f.relativePath = false) (current : Place) (root : String) :
    f.landing current root =
      Path.lead (Path.resolve current root) (Path.pieces f.relativePath) :=
  Path.resolve_push h current root

/-- A file lies below the output directory, wherever that is, exactly if its path is an inner
one. -/
theorem below_iff (f : SourceFile) :
    (∀ current root, Path.IsBelow (Path.resolve current root) (f.landing current root)) ↔
      Path.isInner f.relativePath = true := by
  constructor
  · intro hbelow
    -- a directory that the path does not name
    obtain ⟨name, hname⟩ : ∃ name, name ∉ Path.pieces f.relativePath :=
      ⟨_, freeName_notMem (Path.pieces f.relativePath) "out"⟩
    obtain ⟨names, hne, hlanding⟩ := hbelow [name] "."
    have hresolve : Path.resolve [name] "." = [name] := rfl
    rw [hresolve] at hlanding
    have hmem : name ∈ f.landing [name] "." := by
      rw [hlanding]
      exact List.mem_append_left _ List.mem_cons_self
    cases habs : Path.isAbsolute f.relativePath with
    | true =>
      rw [landing, pathIn, Path.push, if_pos habs, Path.resolve, if_pos habs] at hmem
      exact absurd hmem fun hmem => (Path.mem_lead hmem).elim List.not_mem_nil hname
    | false =>
      rw [landing_of_relative habs, hresolve] at hlanding hmem
      cases hdepth : Path.depth? 0 (Path.pieces f.relativePath) with
      | none =>
        exact absurd hmem (Path.notMem_lead_of_depth? List.not_mem_nil hname hdepth)
      | some depth =>
        obtain ⟨names', hlead, hlength⟩ :=
          Path.lead_of_depth? [name] [] hdepth
        rw [List.append_nil, hlanding, List.append_cancel_left_eq] at hlead
        refine Path.isInner_iff.2 ⟨habs, depth, hdepth, ?_⟩
        rw [← hlength, ← hlead]
        exact List.length_pos_of_ne_nil hne
  · intro hinner current root
    exact Path.isBelow_of_isInner hinner current root

/-- A path that leads somewhere in a tree that grew leads to where it lands. -/
theorem landing_eq {t s : FileTree} (h : t.Grows s) {f : SourceFile} {root : String}
    {q : Place} (hq : s.place? (f.pathIn root) = some q) : f.landing t.current root = q := by
  rw [FileTree.eq_resolve hq, h.current]
  rfl

/-- The last name on the way to a file is its own. -/
theorem exists_landing {f : SourceFile} (h : Path.separator ∉ f.typeName.toList)
    (current : Place) (root : String) :
    ∃ around, f.landing current root = around ++ [f.typeName ++ ".java"] := by
  obtain ⟨first, hfirst⟩ := Path.exists_pieces_push root f.relativePath
  obtain ⟨second, hsecond⟩ :=
    Path.exists_pieces_push (Path.ofPieces f.directories) (f.typeName ++ ".java")
  have hname : Path.pieces (f.typeName ++ ".java") = [f.typeName ++ ".java"] :=
    Path.pieces_of_notMem (by simpa [Path.separator] using h)
  have hpieces : Path.pieces (f.pathIn root) = (first ++ second) ++ [f.typeName ++ ".java"] := by
    rw [pathIn, hfirst, relativePath, hsecond, hname, List.append_assoc]
  obtain ⟨hempty, hdot, hup⟩ := Path.isPlain_java f.typeName
  rw [landing, Path.resolve, hpieces, Path.lead_append]
  simp only [Path.lead, hempty, hdot, hup]
  exact ⟨_, rfl⟩

end SourceFile

/-- The factory and the common interface never lie at one place. -/
theorem landing_factory_ne (f : Factory) (p : ProviderInterface) (current : Place)
    (root : String) :
    f.artifact.file.landing current root ≠ p.artifact.file.landing current root := by
  obtain ⟨first, hfirst⟩ := SourceFile.exists_landing (f := f.artifact.file)
    (by change Path.separator ∉ Source.factoryName.toList; decide) current root
  obtain ⟨second, hsecond⟩ := SourceFile.exists_landing (f := p.artifact.file)
    (by change Path.separator ∉ Source.providerName.toList; decide) current root
  rw [hfirst, hsecond]
  intro heq
  have hnames : Source.factoryName ++ ".java" = Source.providerName ++ ".java" :=
    List.singleton_inj.1 (List.append_inj_right' heq rfl)
  revert hnames
  decide

/-! ## Files without separators in their names -/

namespace SourceFile

/-- Neither the package nor the type that a file is named after has a separator in its name. -/
def IsFlat (f : SourceFile) : Prop :=
  Path.separator ∉ f.package.toList ∧ Path.separator ∉ f.typeName.toList

instance (f : SourceFile) : Decidable f.IsFlat := by
  unfold IsFlat
  infer_instance

/-- The directories of a package have no dots in their names. -/
theorem notMem_of_mem_directories {f : SourceFile} {part : String}
    (h : part ∈ f.directories) : '.' ∉ part.toList ∧ part ≠ "" := by
  obtain ⟨cs, hcs, rfl⟩ := List.mem_map.1 h
  obtain ⟨hcs, hne⟩ := List.mem_filter.1 hcs
  refine ⟨?_, by simpa using hne⟩
  rw [String.toList_ofList]
  exact Text.notMem_of_mem_split hcs

/-- The path of a file without separators in its names consists of its directories and its name. -/
theorem pieces_relativePath {f : SourceFile} (h : f.IsFlat) :
    Path.isAbsolute f.relativePath = false ∧
      Path.pieces f.relativePath = f.directories ++ [f.typeName ++ ".java"] ∧
      ∀ piece ∈ f.directories ++ [f.typeName ++ ".java"], Path.IsPlain piece := by
  have hpath : f.relativePath = Path.ofPieces (f.directories ++ [f.typeName ++ ".java"]) := by
    rw [Path.ofPieces, List.foldl_append]
    rfl
  have hparts : ∀ part ∈ f.directories ++ [f.typeName ++ ".java"],
      Path.separator ∉ part.toList ∧ Path.IsPlain part := by
    intro part hpart
    rcases List.mem_append.1 hpart with hpart | hpart
    · obtain ⟨hdot, hne⟩ := notMem_of_mem_directories hpart
      refine ⟨fun hsep => h.1 ?_, Path.isPlain_of_notMem hdot hne⟩
      obtain ⟨cs, hcs, rfl⟩ := List.mem_map.1 hpart
      rw [String.toList_ofList] at hsep
      exact Text.mem_of_mem_split (List.mem_filter.1 hcs).1 hsep
    · rw [List.mem_singleton.1 hpart]
      exact ⟨by simpa [Path.separator] using h.2, Path.isPlain_java f.typeName⟩
  obtain ⟨hpieces, habs⟩ := Path.pieces_ofPieces (by simp) hparts
  rw [hpath]
  exact ⟨habs, hpieces, fun part hpart => (hparts part hpart).2⟩

/-- The path of a file without separators in its names is an inner one. -/
theorem isInner_of_isFlat {f : SourceFile} (h : f.IsFlat) :
    Path.isInner f.relativePath = true := by
  obtain ⟨habs, hpieces, hplain⟩ := pieces_relativePath h
  refine Path.isInner_iff.2 ⟨habs, f.directories.length + 1, ?_, Nat.succ_pos _⟩
  rw [hpieces, Path.depth?_of_isPlain hplain, Nat.zero_add, List.length_append]
  rfl

variable {f f' : SourceFile} {base : Place} {root : String} {t : FileTree}

theorem landing_of_isFlat (h : f.IsFlat) (current : Place) (root : String) :
    f.landing current root =
      Path.resolve current root ++ (f.directories ++ [f.typeName ++ ".java"]) := by
  obtain ⟨habs, hpieces, hplain⟩ := pieces_relativePath h
  rw [landing_of_relative habs, hpieces, Path.lead_of_isPlain hplain]

/-- Two files lie at one place exactly if their directories and types have the same names. -/
theorem landing_eq_iff (h : f.IsFlat) (h' : f'.IsFlat) (current : Place) (root : String) :
    f.landing current root = f'.landing current root ↔
      f.directories = f'.directories ∧ f.typeName = f'.typeName := by
  rw [landing_of_isFlat h, landing_of_isFlat h', List.append_cancel_left_eq]
  constructor
  · intro heq
    obtain ⟨hdirectories, hnames⟩ := List.append_inj' heq rfl
    exact ⟨hdirectories, (String.append_left_inj ".java").1 (List.singleton_inj.1 hnames)⟩
  · rintro ⟨hdirectories, hname⟩
    rw [hdirectories, hname]

theorem settles_of_isFlat (h : f.IsFlat)
    (hroot : t.follow? (t.start root) (Path.pieces root) = some base) :
    t.Settles (f.pathIn root) := by
  obtain ⟨-, hpieces, hplain⟩ := pieces_relativePath h
  refine FileTree.settles_push hroot ?_
  rw [hpieces]
  exact fun hup => (hplain _ hup).2.2 rfl

/-- In an empty output directory no file is a directory around another: those around it are there
already, or have no dots in their names. -/
theorem landing_notMem_passage (h : f.IsFlat) (h' : f'.IsFlat)
    (hroot : t.follow? (t.start root) (Path.pieces root) = some base)
    (hempty : ∀ place, Path.IsBelow base place → t.node? place = none) :
    f.landing t.current root ∉ f'.passage t.current root := by
  intro hpassage
  obtain ⟨habs, hpieces, hplain⟩ := pieces_relativePath h'
  obtain ⟨first, hpush, hstart, hfirst, hlead⟩ := Path.pieces_push root habs
  have hbase : Path.resolve t.current root = base := (FileTree.eq_lead hroot).symm
  have hlanding := landing_of_isFlat h t.current root
  rw [hbase] at hlanding
  have hnone : t.node? (f.landing t.current root) = none :=
    hempty _ ⟨_, by simp, hlanding⟩
  have hway := Path.mem_way_of_mem_passage hpassage
  rw [pathIn, hpush, hstart, hpieces, ← List.append_assoc, List.dropLast_concat,
    Path.mem_way_append, hlead] at hway
  rcases hway with hway | hway
  · rcases FileTree.isDirectory_of_mem_way hroot (Path.mem_way_of_start hfirst hway) with heq | hdir
    · rw [hlanding] at heq
      simp at heq
    · rw [FileTree.isDirectory, hnone] at hdir
      cases hdir
  · change _ ∈ Path.way (Path.resolve t.current root) f'.directories at hway
    obtain ⟨taken, htaken, heq⟩ := Path.exists_of_mem_way_of_isPlain
      (fun piece hpiece => hplain piece (List.mem_append_left _ hpiece)) hway
    rw [hlanding, hbase, List.append_cancel_left_eq] at heq
    have hname : f.typeName ++ ".java" ∈ f'.directories :=
      htaken.subset (heq ▸ List.mem_append_right _ List.mem_cons_self)
    exact (notMem_of_mem_directories hname).1 (by simp)

end SourceFile

/-! ## The files of a plan -/

namespace ClassGraph

variable {g : ClassGraph}

/-- The file of a root's entity. -/
def entityFile (g : ClassGraph) (root : StubClass) : SourceFile :=
  ⟨root.package, root.name ++ g.config.entitySuffix⟩

/-- The file of a root's field interface. -/
def fieldsFile (g : ClassGraph) (root : StubClass) : SourceFile :=
  ⟨root.package, root.name ++ g.config.fieldsSuffix⟩

/-- The files of a plan. -/
def files (g : ClassGraph) : List SourceFile :=
  g.roots.map g.entityFile ++ g.roots.map g.fieldsFile
    ++ [⟨g.config.factoryPackage, Source.factoryName⟩,
      ⟨g.config.fieldsPackage, Source.providerName⟩]

theorem file_of_planClass {root : StubClass} {p : PlannedClass}
    (h : (g.planClass root).result = .ok p) :
    p.entity.artifact.file = g.entityFile root ∧ p.fields.artifact.file = g.fieldsFile root := by
  obtain ⟨t, ht, hentity, hfields⟩ := planClass_ok h
  have hcls := value_cls_of_resolveTree ht
  have hkeep := (keep_of_entityTree (f := fun e => (⟨e.package, e.entityName⟩ : SourceFile))
    (fun _ _ _ => rfl) hentity).1
  rw [ownEntities, Tree.value_mapRoot, Tree.value_map] at hkeep
  refine ⟨?_, ?_⟩
  · rw [← hcls]
    exact hkeep
  · rw [← hcls, hfields, FieldsTree.artifact, fieldsTree, Tree.value_mapRoot,
      Tree.value_mapWithChildren]
    rfl

end ClassGraph

/-- A plan is that of the graph of its classes. -/
theorem plan_of_planFor {classes : ClassSet} {config : Config} {plan : Plan}
    (h : planFor classes config = .ok plan) :
    (ClassGraph.build classes config).plan = .ok plan := by
  unfold planFor at h
  cases hmake : ClassGraph.make classes config with
  | error e =>
    rw [hmake] at h
    cases h
  | ok g =>
    rw [hmake] at h
    rw [← ClassGraph.eq_build_of_make hmake]
    exact h

/-- The names of the roots and the configuration say where all files lie. -/
theorem files_of_planFor {classes : ClassSet} {config : Config} {plan : Plan}
    (h : planFor classes config = .ok plan) :
    plan.artifacts.map (·.file) = (ClassGraph.build classes config).files := by
  obtain ⟨planned, hplanned, rfl⟩ := ClassGraph.plan_eq_assemble (plan_of_planFor h)
  have hfiles := (ClassGraph.planClasses_ok_iff.1 hplanned).imp
    fun _ _ => ClassGraph.file_of_planClass
  have hentities : planned.map (·.entity.artifact.file) =
      (ClassGraph.build classes config).roots.map (ClassGraph.build classes config).entityFile := by
    rw [← List.forall₂_eq_eq_eq, List.forall₂_map_left_iff, List.forall₂_map_right_iff]
    exact (hfiles.imp fun _ _ h => h.1).flip
  have hfields : planned.map (·.fields.artifact.file) =
      (ClassGraph.build classes config).roots.map (ClassGraph.build classes config).fieldsFile := by
    rw [← List.forall₂_eq_eq_eq, List.forall₂_map_left_iff, List.forall₂_map_right_iff]
    exact (hfiles.imp fun _ _ h => h.2).flip
  rw [ClassGraph.files, ← hentities, ← hfields]
  simp only [Plan.artifacts, ClassGraph.assemble, List.map_append, List.map_map, List.map_cons,
    List.map_nil]
  rfl

end EntityGen
