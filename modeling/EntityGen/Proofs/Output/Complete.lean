import EntityGen.Proofs.Output.Below

/-! # Runs that lose nothing

When a run that succeeds creates all its entities and field interfaces, and leaves each with its own
text.

* `Artifact.Apart`: no file is there yet, none is a directory around another, and no two lie at one
  place.
* `output_complete_iff`: files that lie apart are all created with their texts; below an empty
  output directory, and without separators in their names, files are created only if the packages
  and types they are named after are different.
* `entity_lost`: an entity with the name of the factory is replaced by it. -/

namespace EntityGen

/-! ## Files that lie apart -/

namespace Artifact

/-- Nothing is at the places of the files that are kept, which are no directories around other files
either, and no two of the files get in each other's way. -/
structure Apart (root : String) (t : FileTree) (artifacts : List Artifact) : Prop where
  vacant : ∀ a ∈ artifacts, a.kind.isKept = true → t.node? (a.file.landing t.current root) = none
  clear : ∀ a ∈ artifacts, a.kind.isKept = true → ∀ b ∈ artifacts,
    a.file.landing t.current root ∉ b.file.passage t.current root
  distinct : artifacts.Pairwise fun a b =>
    a.file.landing t.current root = b.file.landing t.current root →
      b.kind.isKept = false ∧ (a.kind.isKept = true → a.text = b.text)

/-- The files that are kept find nothing when the run comes to them, and hold their own texts in the
end. -/
structure Complete (root : String) (t s : FileTree) (artifacts : List Artifact) : Prop where
  fresh : ∀ x ∈ reached root t artifacts, x.1.kind.isKept = true →
    x.2.isThere (x.1.file.pathIn root) = false
  text : ∀ a ∈ artifacts, a.kind.isKept = true → s.readText (a.file.pathIn root) = some a.text

end Artifact

theorem FileTree.readText_eq_some_iff {t : FileTree} {path text : String} :
    t.readText path = some text ↔
      ∃ q, t.place? path = some q ∧ t.node? q = some (.file text) := by
  unfold readText
  cases hplace : t.place? path with
  | none => simp
  | some q =>
    cases hnode : t.node? q with
    | none => simp [hnode]
    | some node => cases node <;> simp [hnode]

section

variable {root : String} {a : Artifact} {artifacts : List Artifact} {t u s : FileTree}
  {r r' : Report}

/-- There is something at the place of a file that is there. -/
theorem node?_ne_none_of_isThere (h : t.isThere (a.file.pathIn root) = true) :
    t.node? (a.file.landing t.current root) ≠ none := by
  obtain ⟨node, hnode⟩ := Option.isSome_iff_exists.1 h
  obtain ⟨q, hq, hnode⟩ := Option.bind_eq_some_iff.1 hnode
  have hlanding : q = a.file.landing t.current root := FileTree.eq_resolve hq
  rw [← hlanding, hnode]
  simp

namespace Artifact

theorem Apart.isThere_head (h : Apart root t (a :: artifacts)) (hkind : a.kind.isKept = true) :
    t.isThere (a.file.pathIn root) = false := by
  by_contra hthere
  exact node?_ne_none_of_isThere (by simpa using hthere) (h.vacant a List.mem_cons_self hkind)

/-- After the first of several files that lie apart the others do. -/
theorem Apart.tail (h : Apart root t (a :: artifacts)) (hwritten : a.Written root t u) :
    Apart root u artifacts := by
  have hcurrent := hwritten.grows.current
  obtain ⟨hfirst, hrest⟩ := List.pairwise_cons.1 h.distinct
  refine ⟨fun b hb hkind => ?_, fun b hb hkind c hc => ?_, ?_⟩
  · rw [hcurrent]
    have hmem := List.mem_cons_of_mem a hb
    have hne : b.file.landing t.current root ≠ a.file.landing t.current root := by
      intro heq
      rw [(hfirst b hb heq.symm).1] at hkind
      cases hkind
    rcases hwritten.other _ hne with hsame | ⟨hpassage, -⟩
    · rw [hsame]
      exact h.vacant b hmem hkind
    · exact absurd hpassage (h.clear b hmem hkind a List.mem_cons_self)
  · rw [hcurrent]
    exact h.clear b (List.mem_cons_of_mem a hb) hkind c (List.mem_cons_of_mem a hc)
  · rwa [hcurrent]

/-- Files that lie apart are all created and hold their own texts. -/
theorem Apart.complete (h : Apart root t artifacts)
    (hrun : Succeeds (r.addAll root artifacts) t r' s) : Complete root t s artifacts := by
  induction artifacts generalizing r t with
  | nil => exact ⟨fun x hx => absurd hx List.not_mem_nil, fun a ha => absurd ha List.not_mem_nil⟩
  | cons a artifacts ih =>
    obtain ⟨o, u, hproduce, hrest⟩ := succeeds_addAll_cons.1 hrun
    have hwritten := written_of_produce hproduce h.isThere_head
    obtain ⟨hfresh, htext⟩ := ih (h.tail hwritten) hrest
    refine ⟨?_, List.forall_mem_cons.2 ⟨fun hkind => ?_, htext⟩⟩
    · rw [reached_cons hproduce, List.forall_mem_cons]
      exact ⟨h.isThere_head, hfresh⟩
    · -- what is written over the file later has its text
      have hfirst := (List.pairwise_cons.1 h.distinct).1
      have hplace := (grows_addAll hrest).place? hwritten.place
      obtain ⟨-, hnode⟩ | ⟨-, b, hb, hlanding, hnode⟩ := node?_addAll hrest hwritten.node
      · exact FileTree.readText_eq_some_iff.2 ⟨_, hplace, hnode⟩
      · rw [hwritten.grows.current] at hlanding
        rw [(hfirst b hb hlanding.symm).2 hkind]
        exact FileTree.readText_eq_some_iff.2 ⟨_, hplace, hnode⟩

/-- What is created is written as the run comes to it. -/
theorem written_of_mem_reached (h : Succeeds (r.addAll root artifacts) t r' s)
    {x : Artifact × FileTree} (hx : x ∈ reached root t artifacts)
    (hcreated : x.1.outcomeIn root x.2 = .created) :
    ∃ u, x.1.Written root x.2 u ∧ u.Grows s := by
  induction artifacts generalizing r t with
  | nil => cases hx
  | cons a artifacts ih =>
    obtain ⟨o, u, hproduce, hrest⟩ := succeeds_addAll_cons.1 h
    rw [reached_cons hproduce] at hx
    rcases List.mem_cons.1 hx with rfl | hx
    · obtain ⟨rfl, ⟨hskipped, -⟩ | ⟨-, hwrite⟩⟩ := succeeds_produce.1 hproduce
      · rw [hcreated] at hskipped
        cases hskipped
      · exact ⟨u, written_of_write hwrite, grows_addAll hrest⟩
    · exact ih hrest hx

theorem exists_mem_reached (ha : a ∈ artifacts) (root : String) (t : FileTree) :
    ∃ u, (a, u) ∈ reached root t artifacts := by
  rw [← map_fst_reached root t artifacts] at ha
  obtain ⟨⟨_, u⟩, hx, rfl⟩ := List.mem_map.1 ha
  exact ⟨u, hx⟩

/-- A file that is created in the end finds nothing at its place when the run comes to it. -/
theorem Complete.node?_eq_none (h : Complete root t s artifacts)
    (hrun : Succeeds (r.addAll root artifacts) t r' s) (hwf : t.WellFormed)
    {x : Artifact × FileTree} (hx : x ∈ reached root t artifacts)
    (hkind : x.1.kind.isKept = true) (hsettles : t.Settles (x.1.file.pathIn root)) :
    x.2.node? (x.1.file.landing t.current root) = none := by
  by_contra hnode
  obtain ⟨hgrows, hgrows'⟩ := grows_of_mem_reached hrun hx
  obtain ⟨q, hq, hfile⟩ :=
    FileTree.readText_eq_some_iff.1 (h.text x.1 (mem_of_mem_reached hx) hkind)
  rw [SourceFile.landing_eq (grows_addAll hrun) hq] at hnode
  have hplace := FileTree.place?_of_settles hsettles hgrows hgrows' (hgrows.wellFormed hwf) hnode
    ((FileTree.Grows.refl s).not_isDirectory hfile) hq
  have hthere := h.fresh x hx hkind
  rw [FileTree.isThere, hplace, Option.bind_some, Option.isSome_eq_false_iff,
    Option.isNone_iff_eq_none] at hthere
  exact hnode hthere

theorem Complete.outcomeIn (h : Complete root t s artifacts) {x : Artifact × FileTree}
    (hx : x ∈ reached root t artifacts) : x.1.outcomeIn root x.2 = .created := by
  unfold Artifact.outcomeIn
  cases hkind : x.1.kind.isKept with
  | true => rw [h.fresh x hx hkind]; rfl
  | false => rfl

/-- Where files find nothing at their places and end with their texts, no two get in each other's
way. -/
theorem distinct_of_node?_eq_none (hrun : Succeeds (r.addAll root artifacts) t r' s)
    (hnone : ∀ x ∈ reached root t artifacts, x.1.kind.isKept = true →
      x.2.node? (x.1.file.landing t.current root) = none)
    (htext : ∀ a ∈ artifacts, a.kind.isKept = true →
      s.node? (a.file.landing t.current root) = some (.file a.text))
    (hshared : ∀ b ∈ artifacts, ∀ c ∈ artifacts, b.kind.isKept = false → c.kind.isKept = false →
      b.file.landing t.current root = c.file.landing t.current root → b = c) :
    artifacts.Pairwise fun a b =>
      a.file.landing t.current root = b.file.landing t.current root →
        b.kind.isKept = false ∧ (a.kind.isKept = true → a.text = b.text) := by
  induction artifacts generalizing r t with
  | nil => exact List.Pairwise.nil
  | cons a artifacts ih =>
    obtain ⟨o, u, hproduce, hrest⟩ := succeeds_addAll_cons.1 hrun
    rw [reached_cons hproduce, List.forall_mem_cons] at hnone
    obtain ⟨hfirst, hnone⟩ := hnone
    have hwritten := written_of_produce hproduce fun hkind => by
      by_contra hthere
      exact node?_ne_none_of_isThere (by simpa using hthere) (hfirst hkind)
    have hcurrent := hwritten.grows.current
    rw [← hcurrent] at hnone
    have hkind : ∀ b ∈ artifacts, a.file.landing t.current root = b.file.landing t.current root →
        b.kind.isKept = false := by
      intro b hb heq
      by_contra hkept
      obtain ⟨v, hv⟩ := exists_mem_reached hb root u
      have hnode := hnone (b, v) hv (by simpa using hkept)
      rw [hcurrent, ← heq] at hnode
      exact ((grows_of_mem_reached hrest hv).1.kept _ (by rw [hwritten.node]; simp)).1 hnode
    refine List.pairwise_cons.2 ⟨fun b hb heq => ⟨hkind b hb heq, fun hkept => ?_⟩, ?_⟩
    · obtain ⟨hskip, -⟩ | ⟨-, c, hc, hlanding, hnode⟩ := node?_addAll hrest hwritten.node
      · obtain ⟨v, hv⟩ := exists_mem_reached hb root u
        have hskipped := hskip (b, v) hv (by rw [hcurrent]; exact heq.symm)
        simp [Artifact.outcomeIn, hkind b hb heq] at hskipped
      · rw [hcurrent] at hlanding
        have hbc : b = c := hshared b (List.mem_cons_of_mem a hb) c (List.mem_cons_of_mem a hc)
          (hkind b hb heq) (hkind c hc hlanding.symm) (heq.symm.trans hlanding.symm)
        rw [htext a List.mem_cons_self hkept] at hnode
        rw [hbc]
        simpa using hnode
    · rw [← hcurrent] at htext hshared ⊢
      exact ih hrest hnone (fun b hb => htext b (List.mem_cons_of_mem a hb)) fun b hb c hc =>
        hshared b (List.mem_cons_of_mem a hb) c (List.mem_cons_of_mem a hc)

/-- Files on settled paths that are all created with their own texts lie apart. -/
theorem Complete.apart (h : Complete root t s artifacts)
    (hrun : Succeeds (r.addAll root artifacts) t r' s) (hwf : t.WellFormed)
    (hsettles : ∀ a ∈ artifacts, a.kind.isKept = true → t.Settles (a.file.pathIn root))
    (hshared : ∀ b ∈ artifacts, ∀ c ∈ artifacts, b.kind.isKept = false → c.kind.isKept = false →
      b.file.landing t.current root = c.file.landing t.current root → b = c) :
    Apart root t artifacts := by
  have hnone : ∀ x ∈ reached root t artifacts, x.1.kind.isKept = true →
      x.2.node? (x.1.file.landing t.current root) = none := fun x hx hkind =>
    h.node?_eq_none hrun hwf hx hkind (hsettles x.1 (mem_of_mem_reached hx) hkind)
  have htext : ∀ a ∈ artifacts, a.kind.isKept = true →
      s.node? (a.file.landing t.current root) = some (.file a.text) := by
    intro a ha hkind
    obtain ⟨q, hq, hfile⟩ := FileTree.readText_eq_some_iff.1 (h.text a ha hkind)
    rwa [SourceFile.landing_eq (grows_addAll hrun) hq]
  refine ⟨fun a ha hkind => ?_, fun a ha hkind b hb hpassage => ?_,
    distinct_of_node?_eq_none hrun hnone htext hshared⟩
  · by_contra hnode
    obtain ⟨u, hu⟩ := exists_mem_reached ha root t
    exact ((grows_of_mem_reached hrun hu).1.kept _ hnode).1 (hnone (a, u) hu hkind)
  · obtain ⟨u, hu⟩ := exists_mem_reached hb root t
    obtain ⟨v, hwritten, hgrows⟩ := written_of_mem_reached hrun hu (h.outcomeIn hu)
    rw [← (grows_of_mem_reached hrun hu).1.current] at hpassage
    have hdir := hgrows.isDirectory (hwritten.passage _ hpassage)
    rw [FileTree.isDirectory, (grows_of_mem_reached hrun hu).1.current, htext a ha hkind] at hdir
    cases hdir

end Artifact

end

/-- Two files that are named after types of one name in the same directories do not get in each
other's way: the second is written anew each time, and has the text of the first if that is kept. -/
def Artifact.NamedApart (a b : Artifact) : Prop :=
  a.file.directories = b.file.directories → a.file.typeName = b.file.typeName →
    b.kind.isKept = false ∧ (a.kind.isKept = true → a.text = b.text)

section

variable {root : String} {t : FileTree} {base : Place} {artifacts : List Artifact}

theorem namedApart_of_nodup (h : (artifacts.map (·.file.typeName)).Nodup) :
    artifacts.Pairwise Artifact.NamedApart := by
  rw [List.Nodup, List.pairwise_map] at h
  exact h.imp fun hne _ heq => absurd heq hne

/-- Below an empty output directory, files without separators in their names lie apart exactly if
their names do. -/
theorem apart_iff_of_isFlat (hflat : ∀ a ∈ artifacts, a.file.IsFlat)
    (hroot : t.follow? (t.start root) (Path.pieces root) = some base)
    (hempty : ∀ place, Path.IsBelow base place → t.node? place = none) :
    Artifact.Apart root t artifacts ↔ artifacts.Pairwise Artifact.NamedApart := by
  have hiff : ∀ a ∈ artifacts, ∀ b ∈ artifacts,
      (a.file.landing t.current root = b.file.landing t.current root →
        b.kind.isKept = false ∧ (a.kind.isKept = true → a.text = b.text)) ↔ a.NamedApart b := by
    intro a ha b hb
    rw [SourceFile.landing_eq_iff (hflat a ha) (hflat b hb), Artifact.NamedApart, and_imp]
  constructor
  · intro h
    exact h.distinct.imp_of_mem fun ha hb => (hiff _ ha _ hb).1
  · intro h
    refine ⟨fun a ha _ => hempty _ ?_, fun a ha _ b hb => ?_, ?_⟩
    · rw [FileTree.eq_lead hroot]
      exact Path.isBelow_of_isInner (SourceFile.isInner_of_isFlat (hflat a ha)) t.current root
    · exact SourceFile.landing_notMem_passage (hflat a ha) (hflat b hb) hroot hempty
    · exact h.imp_of_mem fun ha hb => (hiff _ ha _ hb).2

end

/-! ## Runs -/

/-- All entities and field interfaces of a plan are created, and hold their own texts. -/
structure Plan.IsComplete (plan : Plan) (root : String) (r : Report) (s : FileTree) : Prop where
  entities : r.counts .entity = ⟨plan.entities.length, 0⟩
  fields : r.counts .fields = ⟨plan.fields.length, 0⟩
  text : ∀ a ∈ plan.inOrder, a.kind.isKept = true → s.readText (a.file.pathIn root) = some a.text

section

variable {classes : ClassSet} {config : Config} {root : String} {t s : FileTree} {r : Report}
  {plan : Plan}

theorem mem_inOrder_iff {a : Artifact} : a ∈ plan.inOrder ↔ a ∈ plan.artifacts := by
  simp only [Plan.inOrder, Plan.artifacts, List.mem_append, List.mem_cons, List.not_mem_nil,
    or_false]
  grind

theorem isFlat_of_mem_inOrder (hplan : planFor classes config = .ok plan)
    (hflat : ∀ f ∈ (ClassGraph.build classes config).files, f.IsFlat) :
    ∀ a ∈ plan.inOrder, a.file.IsFlat := by
  rw [← files_of_planFor hplan, List.forall_mem_map] at hflat
  exact fun a ha => hflat a (mem_inOrder_iff.1 ha)

/-- The files that are written anew each time lie at different places. -/
theorem shared_eq {b c : Artifact} (hb : b ∈ plan.inOrder) (hc : c ∈ plan.inOrder)
    (hkindb : b.kind.isKept = false) (hkindc : c.kind.isKept = false)
    (hlanding : b.file.landing t.current root = c.file.landing t.current root) : b = c := by
  have hshared : ∀ a ∈ plan.inOrder, a.kind.isKept = false →
      a = plan.providerInterface.artifact ∨ a = plan.factory.artifact := by
    intro a ha hkind
    simp only [Plan.inOrder, List.mem_append, List.mem_cons, List.mem_map, List.not_mem_nil,
      or_false] at ha
    rcases ha with ⟨e, -, rfl⟩ | rfl | ⟨f, -, rfl⟩ | rfl
    · cases hkind
    · exact .inl rfl
    · cases hkind
    · exact .inr rfl
  have hne := landing_factory_ne plan.factory plan.providerInterface t.current root
  rcases hshared b hb hkindb with rfl | rfl <;> rcases hshared c hc hkindc with rfl | rfl
  · rfl
  · exact absurd hlanding.symm hne
  · exact absurd hlanding hne
  · rfl

/-- A report without files left alone is one of a run in which each file found nothing. -/
theorem isComplete_iff (hplan : planFor classes config = .ok plan)
    (h : Succeeds ((Report.addWarnings {} plan.warnings).addAll root plan.inOrder) t r s) :
    plan.IsComplete root r s ↔ Artifact.Complete root t s plan.inOrder := by
  obtain ⟨hentities, hfields⟩ := length_of_planFor hplan
  have hentity := counts_eq_iff hplan h .entity rfl
  have hfield := counts_eq_iff hplan h .fields rfl
  rw [← hentities] at hentity
  rw [← hfields] at hfield
  constructor
  · intro hcomplete
    refine ⟨fun x hx hkind => ?_, hcomplete.text⟩
    cases hkind' : x.1.kind with
    | entity => exact hentity.1 hcomplete.entities x hx hkind'
    | fields => exact hfield.1 hcomplete.fields x hx hkind'
    | factory =>
      rw [hkind'] at hkind
      cases hkind
    | fieldProvider =>
      rw [hkind'] at hkind
      cases hkind
  · intro hcomplete
    refine ⟨hentity.2 fun x hx hkind => ?_, hfield.2 fun x hx hkind => ?_, hcomplete.text⟩
    · exact hcomplete.fresh x hx (by rw [hkind]; rfl)
    · exact hcomplete.fresh x hx (by rw [hkind]; rfl)

/-- A run that succeeds creates all its entities and field interfaces, each with its own text, if
its files lie apart, and otherwise only if a path goes up out of a directory that is missing; below
an empty output directory, and without separators, the names of the files decide. -/
theorem output_complete_iff (hwf : t.WellFormed)
    (h : t.generate classes config root = (.ok r, s)) :
    ∃ plan, planFor classes config = .ok plan ∧
      (Artifact.Apart root t plan.inOrder → plan.IsComplete root r s) ∧
      ((∀ a ∈ plan.inOrder, a.kind.isKept = true → t.Settles (a.file.pathIn root)) →
        plan.IsComplete root r s → Artifact.Apart root t plan.inOrder) ∧
      ∀ base, t.follow? (t.start root) (Path.pieces root) = some base →
        (∀ place, Path.IsBelow base place → t.node? place = none) →
        (∀ f ∈ (ClassGraph.build classes config).files, f.IsFlat) →
          (plan.IsComplete root r s ↔ plan.inOrder.Pairwise Artifact.NamedApart) := by
  obtain ⟨plan, hplan, hrun⟩ := generate_eq_ok_iff.1 h
  have hcomplete := isComplete_iff hplan hrun
  have hapart : (∀ a ∈ plan.inOrder, a.kind.isKept = true → t.Settles (a.file.pathIn root)) →
      plan.IsComplete root r s → Artifact.Apart root t plan.inOrder := fun hsettles h =>
    (hcomplete.1 h).apart hrun hwf hsettles fun b hb c hc => shared_eq hb hc
  refine ⟨plan, hplan, fun happart => hcomplete.2 (happart.complete hrun), hapart,
    fun base hroot hempty hflat => ?_⟩
  have hflat' := isFlat_of_mem_inOrder hplan hflat
  rw [← apart_iff_of_isFlat hflat' hroot hempty]
  exact ⟨hapart fun a ha _ => SourceFile.settles_of_isFlat (hflat' a ha) hroot,
    fun h => hcomplete.2 (h.complete hrun)⟩

theorem output_complete_keep : emptyOutput.WellFormed ∧
    ∃ r s, emptyOutput.generate (single "Keep") shortPackages "out" = (.ok r, s) ∧
      ∃ plan, planFor (single "Keep") shortPackages = .ok plan ∧
        Artifact.Apart "out" emptyOutput plan.inOrder ∧ plan.IsComplete "out" r s := by
  have hname : "Keep" ∈ keepNames := by decide
  have hok :
      (emptyOutput.generate (single "Keep") shortPackages "out").1.toOption.isSome = true := by
    rw [FileTree.generate, generate, planFor_single hname]
    decide +kernel
  obtain ⟨r, h⟩ := exists_generate_eq hok
  obtain ⟨plan, hplan, -, hapart, hiff⟩ := output_complete_iff wellFormed_emptyOutput h
  have hnamed : plan.inOrder.Pairwise Artifact.NamedApart := by
    obtain ⟨_, hplan', -, -, hentities, hfields⟩ := exists_plan_single hname
    rw [hplan] at hplan'
    cases hplan'
    have hnames : plan.inOrder.map (·.file.typeName) =
        plan.entities.map (·.artifact.file.typeName) ++ Source.providerName ::
          (plan.fields.map (·.artifact.file.typeName) ++ [Source.factoryName]) := by
      simp only [Plan.inOrder, List.map_append, List.map_cons, List.map_map, List.map_nil]
      rfl
    refine namedApart_of_nodup ?_
    rw [hnames, hentities, hfields]
    decide
  have hroot :
      emptyOutput.follow? (emptyOutput.start "out") (Path.pieces "out") = some ["out"] := by
    decide
  have hempty : ∀ place, Path.IsBelow ["out"] place → emptyOutput.node? place = none := by
    rintro place ⟨names, hne, rfl⟩
    cases names with
    | nil => exact absurd rfl hne
    | cons name names => simp [FileTree.node?, emptyOutput]
  have hcomplete := (hiff ["out"] hroot hempty isFlat_keep).2 hnamed
  refine ⟨wellFormed_emptyOutput, r, _, h, plan, hplan, hapart (fun a ha _ => ?_) hcomplete,
    hcomplete⟩
  exact SourceFile.settles_of_isFlat (isFlat_of_mem_inOrder hplan isFlat_keep a ha) hroot

end

/-! ## An entity named like the factory -/

/-- A class of which the entity is named like the factory, in the same package. -/
def factoryNamed : ClassSet :=
  ⟨ClassDef.layoutAll none 0 [⟨"f", "JPAEntities", false, none, [], [], []⟩]⟩

def factoryNaming : Config :=
  { entitySuffix := "Factory", factoryPackage := "f", fieldsPackage := "p" }

/-- The run creates the entity, and then the factory in its place. -/
theorem entity_lost : ∃ plan r s, planFor factoryNamed factoryNaming = .ok plan ∧
    emptyOutput.generate factoryNamed factoryNaming "out" = (.ok r, s) ∧
    r.counts .entity = ⟨plan.entities.length, 0⟩ ∧
    ∃ a ∈ plan.inOrder, a.kind = .entity ∧ s.readText (a.file.pathIn "out") ≠ some a.text := by
  have hplan : planFor factoryNamed factoryNaming =
      planOf factoryNamed factoryNaming factoryNamed.classes :=
    planFor_eq_planOf (by decide) (by decide) (List.pairwise_singleton _ _)
  have hrun : ∃ plan ∈ (planOf factoryNamed factoryNaming factoryNamed.classes).toOption,
      ∃ r ∈ (emptyOutput.generate factoryNamed factoryNaming "out").1.toOption,
        r.counts .entity = ⟨plan.entities.length, 0⟩ ∧
        ∃ a ∈ plan.inOrder, a.kind = .entity ∧
          (emptyOutput.generate factoryNamed factoryNaming "out").2.readText
            (a.file.pathIn "out") ≠ some a.text := by
    simp only [generate_eq_run hplan]
    decide +kernel
  obtain ⟨plan, hmem, r, hr, hcounts, hlost⟩ := hrun
  exact ⟨plan, r, _, hplan.trans (eq_ok_of_mem_toOption hmem),
    Prod.ext (eq_ok_of_mem_toOption hr) rfl, hcounts, hlost⟩

end EntityGen
