import EntityGen.Proofs.Output.Run

/-! # Files below the output directory

What a run can change at all.

* `confined_generate`: a run of which the files lie below the output directory changes nothing else,
  apart from making that directory, also on a disk that fails.
* `output_below_iff`: the files of a plan lie below the output directory, wherever that is, exactly
  if the path of none of them starts at the root or goes up out of its start (`Path.isInner`).
* `above_output`: a class of which the name starts with a path that goes up. -/

namespace EntityGen

/-! ## What a run can change -/

/-- From `t` to `s` nothing has changed but what lies below the output directory, and directories on
the way to it that were not there. -/
structure FileTree.Confined (root : String) (t s : FileTree) : Prop where
  current : s.current = t.current
  node : ∀ place, Path.IsBelow (Path.resolve t.current root) place ∨ s.node? place = t.node? place ∨
    place ∈ Path.way (t.start root) (Path.pieces root) ∧ t.node? place = none ∧
      s.node? place = some .directory

namespace FileTree

variable {root path : String} {t s u : FileTree}

theorem Confined.refl (root : String) (t : FileTree) : t.Confined root t :=
  ⟨rfl, fun _ => .inr (.inl rfl)⟩

theorem Confined.trans (hs : t.Confined root s) (hu : s.Confined root u) : t.Confined root u := by
  refine ⟨hu.current.trans hs.current, fun place => ?_⟩
  have hplace := hu.node place
  rw [start, hs.current] at hplace
  rcases hs.node place with hbelow | hsame | ⟨hway, hnone, hdir⟩
  · exact .inl hbelow
  · rwa [hsame] at hplace
  · rcases hplace with hbelow | hsame | ⟨-, hnone', -⟩
    · exact .inl hbelow
    · exact .inr (.inr ⟨hway, hnone, hsame.trans hdir⟩)
    · rw [hdir] at hnone'
      cases hnone'

theorem confined_of_passage (h : Path.isInner path = true) (hcurrent : u.current = t.current)
    (hnode : ∀ place, u.node? place = t.node? place ∨
      place ∈ Path.passage t.current (Path.push root path) ∧ t.node? place = none ∧
        u.node? place = some .directory) : t.Confined root u := by
  refine ⟨hcurrent, fun place => ?_⟩
  rcases hnode place with hsame | ⟨hpassage, hmade⟩
  · exact .inr (.inl hsame)
  · rcases Path.way_push h (Path.mem_way_of_mem_passage hpassage) with hbelow | hway
    · exact .inl hbelow
    · exact .inr (.inr ⟨hway, hmade⟩)

theorem confined_writeText (h : Path.isInner path = true) (text : String) :
    t.Confined root (t.writeText (Path.push root path) text).1 := by
  unfold writeText
  split
  · exact .refl root t
  · next q hq =>
    split
    · exact .refl root t
    · next hdir =>
      have hput := t.node?_put (ne_nil_of_not_isDirectory (Bool.eq_false_iff.2 hdir)) (.file text)
      refine ⟨rfl, fun place => ?_⟩
      by_cases heq : place = q
      · rw [heq, eq_resolve hq]
        exact .inl (Path.isBelow_of_isInner h t.current root)
      · rw [hput, if_neg heq]
        exact .inr (.inl rfl)

end FileTree

section

variable {I : FileTree → Prop} {root : String} {plan : Plan}

/-- A run keeps what the writing of each of its files keeps. -/
theorem keeps_writeTo_of_write
    (h : ∀ a ∈ plan.artifacts, Keeps I (a.write root : DiskM WriteOutcome)) :
    Keeps I (plan.writeTo root : DiskM Report) := by
  have habsent : ∀ (artifacts : List Artifact) (r : Report), (∀ a ∈ artifacts, a ∈ plan.artifacts) →
      Keeps I (r.addAbsent root artifacts : DiskM Report) := by
    intro artifacts
    induction artifacts with
    | nil => exact fun r _ => keeps_pure r
    | cons a artifacts ih =>
      intro r hmem
      rw [List.forall_mem_cons] at hmem
      have hisThere : Keeps I (FileAccess.isThere (a.file.pathIn root) : DiskM Bool) :=
        fun _ hd => hd
      refine Keeps.bind (hisThere.bind fun isThere => ?_) fun _ => ih _ hmem.2
      cases isThere with
      | true => exact keeps_pure _
      | false => exact h a hmem.1
  have hwritten : ∀ a ∈ plan.artifacts, ∀ r : Report,
      Keeps I (r.addWritten root a : DiskM Report) :=
    fun a ha _ => (h a ha).bind fun _ => keeps_pure _
  refine (habsent _ _ ?_).bind fun r => (hwritten _ ?_ r).bind fun r =>
    (habsent _ r ?_).bind fun r => hwritten _ ?_ r
  all_goals simp +contextual [Plan.artifacts]

end

/-- On any disk, a run whose files lie below the output directory changes nothing else. -/
theorem confined_generate {classes : ClassSet} {config : Config}
    (h : ∀ f ∈ (ClassGraph.build classes config).files, Path.isInner f.relativePath = true)
    (root : String) (d : Disk) :
    d.tree.Confined root ((generate classes config root : DiskM Report).run d).2.tree := by
  have hwrite : ∀ a : Artifact, Path.isInner a.file.relativePath = true →
      Keeps (d.tree.Confined root) (a.write root : DiskM WriteOutcome) := by
    intro a ha
    unfold Artifact.write
    dsimp only
    refine Keeps.orThrow (fun d' hd' => ?_) _ (Keeps.orThrow (fun d' hd' => ?_) _ (keeps_pure _))
    · refine holds_change hd' (hd'.trans ?_) fun progress => hd'.trans ?_
      · exact FileTree.confined_of_passage ha (FileTree.grows_createDirs _ _).current
          (FileTree.node?_createDirs_parent _ _)
      · exact FileTree.confined_of_passage ha (FileTree.grows_createSome _ _ progress).current
          (FileTree.node?_createSome_parent _ _ progress)
    · exact holds_change hd' (hd'.trans (FileTree.confined_writeText ha _)) fun _ =>
        hd'.trans (FileTree.confined_writeText ha _)
  rw [generate, run_bind]
  cases hplan : planFor classes config with
  | error e => exact .refl root d.tree
  | ok plan =>
    refine keeps_writeTo_of_write (fun a ha => hwrite a ?_) d (.refl root d.tree)
    rw [← files_of_planFor hplan] at h
    exact h a.file (List.mem_map_of_mem ha)

/-! ## Where a run writes -/

/-- The files of a plan lie below the output directory, wherever that is, exactly if the paths of
the model's files are inner ones; then nothing else changes in a run. -/
theorem output_below_iff {classes : ClassSet} {config : Config} {plan : Plan}
    (h : planFor classes config = .ok plan) :
    ((∀ current root, ∀ a ∈ plan.artifacts,
        Path.IsBelow (Path.resolve current root) (a.file.landing current root)) ↔
      ∀ f ∈ (ClassGraph.build classes config).files, Path.isInner f.relativePath = true) ∧
    ((∀ f ∈ (ClassGraph.build classes config).files, f.IsFlat) →
      ∀ f ∈ (ClassGraph.build classes config).files, Path.isInner f.relativePath = true) ∧
    ((∀ f ∈ (ClassGraph.build classes config).files, Path.isInner f.relativePath = true) →
      ∀ (root : String) (d : Disk),
        d.tree.Confined root ((generate classes config root : DiskM Report).run d).2.tree) := by
  refine ⟨?_, fun hflat f hf => SourceFile.isInner_of_isFlat (hflat f hf),
    fun hinner root d => confined_generate hinner root d⟩
  rw [← files_of_planFor h, List.forall_mem_map]
  constructor
  · intro hbelow a ha
    exact a.file.below_iff.1 fun current root => hbelow current root a ha
  · intro hinner current root a ha
    exact a.file.below_iff.2 (hinner a ha) current root

theorem isFlat_keep : ∀ f ∈ (ClassGraph.build (single "Keep") shortPackages).files, f.IsFlat := by
  have hroots : (ClassGraph.build (single "Keep") shortPackages).roots = (single "Keep").classes :=
    ClassGraph.roots_eq (by decide) (List.pairwise_singleton _ _)
  rw [ClassGraph.files, hroots]
  decide

theorem output_below_keep : ∃ plan, planFor (single "Keep") shortPackages = .ok plan ∧
    (∀ current root, ∀ a ∈ plan.artifacts,
      Path.IsBelow (Path.resolve current root) (a.file.landing current root)) ∧
    ∀ (root : String) (d : Disk), d.tree.Confined root
      ((generate (single "Keep") shortPackages root : DiskM Report).run d).2.tree := by
  obtain ⟨plan, hplan, -⟩ := exists_plan_single (by decide : "Keep" ∈ keepNames)
  obtain ⟨hiff, hinner, hconfined⟩ := output_below_iff hplan
  exact ⟨plan, hplan, hiff.2 (hinner isFlat_keep), hconfined (hinner isFlat_keep)⟩

/-- The name of the class goes up out of the output directory, and so do its files. -/
theorem above_output : ∃ plan, planFor (single "../Offer") shortPackages = .ok plan ∧
    (∃ a ∈ plan.artifacts,
      ¬ Path.IsBelow (Path.resolve [] "out") (a.file.landing [] "out")) ∧
    (emptyOutput.generate (single "../Offer") shortPackages "out").2.node? ["OfferJPA.java"] ≠
      none := by
  have hplan : planFor (single "../Offer") shortPackages =
      planOf (single "../Offer") shortPackages (single "../Offer").classes :=
    planFor_eq_planOf (by decide) (by decide) (List.pairwise_singleton _ _)
  have hlanding : ∃ plan ∈ (planOf (single "../Offer") shortPackages
      (single "../Offer").classes).toOption, ∃ a ∈ plan.artifacts,
        a.file.landing [] "out" = ["OfferJPA.java"] := by decide +kernel
  obtain ⟨plan, hmem, a, ha, hlanding⟩ := hlanding
  refine ⟨plan, hplan.trans (eq_ok_of_mem_toOption hmem), ⟨a, ha, ?_⟩, ?_⟩
  · have hroot : Path.resolve [] "out" = ["out"] := by decide
    rw [hlanding, hroot]
    rintro ⟨names, -, heq⟩
    exact absurd (List.cons.inj heq).1 (by decide)
  · rw [generate_eq_run hplan]
    decide +kernel

end EntityGen
