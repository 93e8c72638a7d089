import EntityGen.Proofs.Output.Run

/-! # Running once more

After a run that succeeded, one more run with the same model and configuration succeeds as well and
creates no entity and no field interface.

* `rerun`: what the first report counts, and exactly when the second run leaves all files as they
  are: unless the first one wrote a field interface over the common interface, which the second one
  then writes anew.
* `FieldsTree.source_ne`: no field interface has the text of the common interface.
* `provider_lost`: a field interface on a path that goes up replaces the common interface. -/

namespace EntityGen

/-! ## The ends of sources -/

namespace Code

/-- The code ends with a block. -/
def EndsInBlock (codes : List Code) : Prop :=
  ∃ first head body, codes = first ++ [.block head body]

theorem EndsInBlock.append {codes : List Code} (h : EndsInBlock codes) (first : List Code) :
    EndsInBlock (first ++ codes) := by
  obtain ⟨before, head, body, rfl⟩ := h
  exact ⟨first ++ before, head, body, (List.append_assoc _ _ _).symm⟩

/-- The text of code that ends with a block ends with the text of the block. -/
theorem exists_renderAll_block (depth : Nat) (first : List Code) (head : String)
    (body : List Code) : ∃ start,
      renderAll depth (first ++ [.block head body]) =
        start ++ (renderAll (depth + 1) body ++ indent depth ++ "\x7d\n") := by
  refine ⟨renderAll depth first ++ (indent depth ++ head ++ " \x7b\n"), ?_⟩
  simp only [renderAll_append, renderAll, render, String.append_assoc, String.append_empty]

theorem EndsInBlock.exists_renderAll {codes : List Code} (h : EndsInBlock codes) (depth : Nat) :
    ∃ start, renderAll depth codes = start ++ "\x7d\n" := by
  obtain ⟨first, head, body, rfl⟩ := h
  obtain ⟨start, hstart⟩ := exists_renderAll_block depth first head body
  exact ⟨start ++ (renderAll (depth + 1) body ++ indent depth), by
    rw [hstart, ← String.append_assoc]⟩

end Code

section

open Code

theorem endsInBlock_interfaceCode (f : FieldsInterface) (nested : List Code) :
    EndsInBlock (f.interfaceCode nested) := ⟨_, _, _, rfl⟩

theorem endsInBlock_nestedCode {ts : List FieldsTree} (h : ts ≠ []) :
    EndsInBlock (FieldsTree.nestedCode ts) := by
  induction ts with
  | nil => exact absurd rfl h
  | cons t ts ih =>
    obtain ⟨f, nested⟩ := t
    cases ts with
    | nil =>
      rw [FieldsTree.nestedCode, FieldsTree.nestedCode, List.append_nil, FieldsTree.code]
      exact (endsInBlock_interfaceCode f _).append [.blank]
    | cons t' ts =>
      rw [FieldsTree.nestedCode]
      exact (ih (List.cons_ne_nil t' ts)).append (.blank :: _)

theorem endsInBlock_answerCode (type name value : String) :
    EndsInBlock (FieldsInterface.answerCode type name value) := ⟨[.blank], _, _, rfl⟩

theorem endsInBlock_answersCode (f : FieldsInterface) : EndsInBlock f.answersCode := by
  unfold FieldsInterface.answersCode
  by_cases hempty : f.nestedFirstFields.isEmpty = true
  · rw [if_pos hempty, List.append_nil]
    exact (endsInBlock_answerCode _ _ _).append _
  · rw [if_neg hempty]
    exact (endsInBlock_answerCode _ _ _).append _

end

/-- A field interface ends with the braces of a method or nested interface and its own. -/
theorem FieldsTree.exists_source (t : FieldsTree) :
    ∃ start, t.source = start ++ "\x7d\n\x7d\n" := by
  obtain ⟨f, nested⟩ := t
  have hbody : Code.EndsInBlock
      (f.constantsCode ++ f.answersCode ++ FieldsTree.nestedCode nested) := by
    cases nested with
    | nil =>
      rw [FieldsTree.nestedCode, List.append_nil]
      exact (endsInBlock_answersCode f).append _
    | cons t ts => exact (endsInBlock_nestedCode (List.cons_ne_nil t ts)).append _
  obtain ⟨inner, hinner⟩ := hbody.exists_renderAll 1
  have hbraces : "\x7d\n" ++ Code.indent 0 ++ "\x7d\n" = "\x7d\n\x7d\n" := by decide
  rw [FieldsTree.source, FieldsTree.code, FieldsInterface.interfaceCode]
  obtain ⟨start, hstart⟩ := Code.exists_renderAll_block 0 _ _ _
  rw [hstart, hinner, ← hbraces]
  exact ⟨_ ++ start ++ inner, by simp only [String.append_assoc]; rfl⟩

/-- The common interface ends with a constant and its brace. -/
theorem ProviderInterface.exists_source (p : ProviderInterface) :
    ∃ start, p.source = start ++ ";\n\x7d\n" := by
  have hbraces : ";" ++ "\n" ++ Code.indent 0 ++ "\x7d\n" = ";\n\x7d\n" := by decide
  rw [ProviderInterface.source, ProviderInterface.code]
  obtain ⟨start, hstart⟩ := Code.exists_renderAll_block 0 _ _ _
  rw [hstart, ← hbraces]
  simp only [Code.renderAll, Code.render, String.append_empty, ← String.append_assoc]
  exact ⟨_, rfl⟩

theorem FieldsTree.source_ne (t : FieldsTree) (p : ProviderInterface) : t.source ≠ p.source := by
  intro heq
  obtain ⟨first, hfirst⟩ := t.exists_source
  obtain ⟨second, hsecond⟩ := p.exists_source
  rw [hfirst, hsecond] at heq
  have hlists := congrArg String.toList heq
  rw [String.toList_append, String.toList_append] at hlists
  have hends := (List.append_inj_right' hlists rfl)
  revert hends
  decide

/-! ## A run after a run -/

section

variable {root : String} {artifacts : List Artifact} {t s : FileTree} {r : Report}

/-- Files that are kept and there are left alone. -/
theorem succeeds_addAll_of_isThere (hkind : ∀ a ∈ artifacts, a.kind.isKept = true)
    (hthere : ∀ a ∈ artifacts, t.isThere (a.file.pathIn root) = true) (r : Report) :
    Succeeds (r.addAll root artifacts) t
      { r with outcomes := r.outcomes ++ artifacts.map fun a => (a.kind, .skipped) } t := by
  induction artifacts generalizing r with
  | nil => exact succeeds_pure.2 ⟨by simp, rfl⟩
  | cons a artifacts ih =>
    rw [List.forall_mem_cons] at hkind hthere
    have ho : WriteOutcome.skipped = a.outcomeIn root t := by
      simp [Artifact.outcomeIn, hkind.1, hthere.1]
    refine succeeds_addAll_cons.2 ⟨.skipped, t, succeeds_produce.2 ⟨ho, .inl ⟨rfl, rfl⟩⟩, ?_⟩
    have hrest := ih hkind.2 hthere.2 (r.record a.kind .skipped)
    rw [Report.record, List.append_assoc, List.singleton_append] at hrest
    exact hrest

end

/-- Two trees hold the same. -/
structure FileTree.Same (t s : FileTree) : Prop where
  current : s.current = t.current
  node : ∀ place, s.node? place = t.node? place

/-- Putting two things, of which the second is in its place already, changes nothing but the
first. -/
theorem FileTree.same_put_iff {t : FileTree} {p q : Place} {first second : FileNode} (hp : p ≠ [])
    (hq : q ≠ []) (hne : q ≠ p) (hsecond : t.node? q = some second) :
    (∀ place, place ≠ p → ((t.put p first).put q second).node? place = t.node? place) ∧
      (t.Same ((t.put p first).put q second) ↔ t.node? p = some first) := by
  have hother : ∀ place, place ≠ p →
      ((t.put p first).put q second).node? place = t.node? place := by
    intro place hplace
    rw [node?_put _ hq, node?_put _ hp, if_neg hplace]
    split
    · next heq => rw [heq, hsecond]
    · rfl
  have hself : ((t.put p first).put q second).node? p = some first := by
    rw [node?_put _ hq, node?_put _ hp, if_neg (Ne.symm hne), if_pos rfl]
  refine ⟨hother, fun h => (h.node p).symm.trans hself, fun hfirst => ⟨rfl, fun place => ?_⟩⟩
  by_cases hplace : place = p
  · rw [hplace, hself, hfirst]
  · exact hother place hplace

/-- The field interfaces of a plan that lie where the common interface lies find something there. -/
def Plan.SparesProvider (plan : Plan) (root : String) (t : FileTree) : Prop :=
  ∀ x ∈ Artifact.reached root t plan.inOrder, x.1.kind = .fields →
    x.1.file.landing t.current root =
      plan.providerInterface.artifact.file.landing t.current root →
    x.2.isThere (x.1.file.pathIn root) = true

section

variable {root : String} {t s : FileTree} {r : Report} {plan : Plan}

/-- A run writes the entities, the common interface, the field interfaces and the factory. -/
theorem succeeds_inOrder {r₀ : Report} :
    Succeeds (r₀.addAll root plan.inOrder) t r s ↔ ∃ r₁ t₁ t₂ r₂ t₃,
      Succeeds (r₀.addAll root (plan.entities.map EntityTree.artifact)) t r₁ t₁ ∧
      Succeeds (plan.providerInterface.artifact.write root) t₁ .created t₂ ∧
      Succeeds ((r₁.record .fieldProvider .created).addAll root
        (plan.fields.map FieldsTree.artifact)) t₂ r₂ t₃ ∧
      Succeeds (plan.factory.artifact.write root) t₃ .created s ∧
      r₂.record .factory .created = r := by
  rw [Plan.inOrder, succeeds_addAll_append]
  constructor
  · rintro ⟨r₁, t₁, hentities, hrest⟩
    obtain ⟨o, t₂, hprovider, hrest⟩ := succeeds_addAll_cons.1 hrest
    obtain ⟨r₂, t₃, hfields, hrest⟩ := succeeds_addAll_append.1 hrest
    obtain ⟨o', u, hfactory, hrest⟩ := succeeds_addAll_cons.1 hrest
    obtain ⟨hr, rfl⟩ := succeeds_pure.1 hrest
    obtain rfl : o = .created := (succeeds_write.1 hprovider).1
    obtain rfl : o' = .created := (succeeds_write.1 hfactory).1
    exact ⟨r₁, t₁, t₂, r₂, t₃, hentities, hprovider, hfields, hfactory, hr⟩
  · rintro ⟨r₁, t₁, t₂, r₂, t₃, hentities, hprovider, hfields, hfactory, hr⟩
    refine ⟨r₁, t₁, hentities, succeeds_addAll_cons.2 ⟨.created, t₂, hprovider, ?_⟩⟩
    refine succeeds_addAll_append.2 ⟨r₂, t₃, hfields, succeeds_addAll_cons.2 ?_⟩
    exact ⟨.created, s, hfactory, succeeds_pure.2 ⟨hr, rfl⟩⟩

/-- A second run finds all its files there. -/
theorem isThere_again {artifacts : List Artifact} {r₀ r₁ r' : Report} {s' : FileTree}
    (h : Succeeds (r₀.addAll root artifacts) t r s)
    (h' : Succeeds (r₁.addAll root artifacts) s r' s') :
    ∀ x ∈ Artifact.reached root s artifacts, x.2.isThere (x.1.file.pathIn root) = true := by
  intro x hx
  exact (grows_of_mem_reached h' hx).1.isThere (isThere_addAll h (mem_of_mem_reached hx))

/-- The field interfaces among all files. -/
theorem mem_reached_fields {r₀ r₁ r₂ : Report} {t₁ t₂ t₃ : FileTree}
    (hentities : Succeeds (r₀.addAll root (plan.entities.map EntityTree.artifact)) t r₁ t₁)
    (hprovider : Succeeds (plan.providerInterface.artifact.write root) t₁ .created t₂)
    (hfields : Succeeds ((r₁.record .fieldProvider .created).addAll root
      (plan.fields.map FieldsTree.artifact)) t₂ r₂ t₃) {x : Artifact × FileTree} :
    x ∈ Artifact.reached root t plan.inOrder ∧ x.1.kind = .fields ↔
      x ∈ Artifact.reached root t₂ (plan.fields.map FieldsTree.artifact) := by
  have hproduce : Succeeds (plan.providerInterface.artifact.produce root) t₁ .created t₂ :=
    hprovider
  rw [Plan.inOrder, reached_append hentities, reached_cons hproduce, reached_append hfields,
    List.mem_append, List.mem_cons, List.mem_append]
  constructor
  · rintro ⟨hx | rfl | hx | hx, hkind⟩
    · obtain ⟨e, -, he⟩ := List.mem_map.1 (mem_of_mem_reached hx)
      rw [← he] at hkind
      cases hkind
    · cases hkind
    · exact hx
    · rw [List.mem_singleton.1 (mem_of_mem_reached hx)] at hkind
      cases hkind
  · intro hx
    refine ⟨.inr (.inr (.inl hx)), ?_⟩
    obtain ⟨f, -, hf⟩ := List.mem_map.1 (mem_of_mem_reached hx)
    rw [← hf]
    rfl

/-- The common interface is spared exactly if it is what lies at its place. -/
theorem sparesProvider_iff {r₀ r₁ r₂ : Report} {t₁ t₂ t₃ : FileTree}
    (hentities : Succeeds (r₀.addAll root (plan.entities.map EntityTree.artifact)) t r₁ t₁)
    (hprovider : Succeeds (plan.providerInterface.artifact.write root) t₁ .created t₂)
    (hfields : Succeeds ((r₁.record .fieldProvider .created).addAll root
      (plan.fields.map FieldsTree.artifact)) t₂ r₂ t₃) :
    plan.SparesProvider root t ↔
      t₃.node? (plan.providerInterface.artifact.file.landing t.current root) =
        some (.file plan.providerInterface.artifact.text) := by
  have hcurrent₁ := (grows_addAll hentities).current
  have hcurrent₂ := (written_of_write hprovider).grows.current.trans hcurrent₁
  have hreached := fun x => mem_reached_fields hentities hprovider hfields (x := x)
  have hskipped : ∀ x ∈ Artifact.reached root t₂ (plan.fields.map FieldsTree.artifact),
      x.1.outcomeIn root x.2 = .skipped ↔ x.2.isThere (x.1.file.pathIn root) = true := by
    intro x hx
    obtain ⟨-, hkind⟩ := (hreached x).2 hx
    simp [Artifact.outcomeIn, hkind, ArtifactKind.isKept]
  have hspares : plan.SparesProvider root t ↔
      ∀ x ∈ Artifact.reached root t₂ (plan.fields.map FieldsTree.artifact),
        x.1.file.landing t₂.current root =
          plan.providerInterface.artifact.file.landing t.current root →
        x.1.outcomeIn root x.2 = .skipped := by
    rw [hcurrent₂]
    constructor
    · intro h x hx heq
      obtain ⟨hmem, hkind⟩ := (hreached x).2 hx
      exact (hskipped x hx).2 (h x hmem hkind heq)
    · intro h x hmem hkind heq
      have hx := (hreached x).1 ⟨hmem, hkind⟩
      exact (hskipped x hx).1 (h x hx heq)
  have hnode := (written_of_write hprovider).node
  rw [hcurrent₁] at hnode
  obtain ⟨hskip, htext⟩ | ⟨⟨x, hx, heq, hcreated⟩, a, ha, -, htext⟩ := node?_addAll hfields hnode
  · exact iff_of_true (hspares.2 hskip) htext
  · refine iff_of_false (fun h => ?_) fun h => ?_
    · rw [hspares.1 h x hx heq] at hcreated
      cases hcreated
    · obtain ⟨f, -, rfl⟩ := List.mem_map.1 ha
      rw [htext, Option.some.injEq, FileNode.file.injEq] at h
      exact f.source_ne plan.providerInterface h

/-- The factory leaves what is at the place of the common interface once that was written. -/
theorem node?_provider {t₁ t₂ t₃ : FileTree}
    (hprovider : Succeeds (plan.providerInterface.artifact.write root) t₁ .created t₂)
    (hgrows : t₂.Grows t₃)
    (hfactory : Succeeds (plan.factory.artifact.write root) t₃ .created s) :
    s.node? (plan.providerInterface.artifact.file.landing t₁.current root) =
      t₃.node? (plan.providerInterface.artifact.file.landing t₁.current root) := by
  have hwritten := written_of_write hprovider
  have hcurrent := hgrows.current.trans hwritten.grows.current
  have hne := landing_factory_ne plan.factory plan.providerInterface t₁.current root
  have hthere := (hgrows.kept _ (by rw [hwritten.node]; simp)).1
  rw [← hcurrent] at hne
  rcases (written_of_write hfactory).other _ hne.symm with hsame | ⟨-, hnone⟩
  · rwa [hcurrent] at hsame
  · rw [hcurrent] at hnone
    exact absurd hnone hthere

/-- A second run succeeds as well, and it changes the common interface at most. -/
theorem again_inOrder {r₀ : Report} (h : Succeeds (r₀.addAll root plan.inOrder) t r s) :
    ∃ r' s', Succeeds (r₀.addAll root plan.inOrder) s r' s' ∧
      (∀ place, place ≠ plan.providerInterface.artifact.file.landing t.current root →
        s'.node? place = s.node? place) ∧
      (s.Same s' ↔ plan.SparesProvider root t) := by
  obtain ⟨r₁, t₁, t₂, r₂, t₃, hentities, hprovider, hfields, hfactory, -⟩ := succeeds_inOrder.1 h
  have hgrows₁ := grows_addAll hentities
  have hwritten := written_of_write hprovider
  have hgrows₃ := grows_addAll hfields
  have hwritten' := written_of_write hfactory
  have hcurrent₁ := hgrows₁.current
  have hcurrent₃ := ((hgrows₁.trans hwritten.grows).trans hgrows₃).current
  have hthere : ∀ a ∈ plan.inOrder, s.isThere (a.file.pathIn root) = true :=
    fun a => isThere_addAll h
  -- the second run, with the entities and field interfaces skipped
  have hprovider' := write_again hprovider (hgrows₃.trans hwritten'.grows)
  have hgrows' := (written_of_write hprovider').grows
  have hfactory' := write_again hfactory hgrows'
  rw [hcurrent₁] at hprovider' hgrows' hfactory'
  rw [hcurrent₃] at hfactory'
  refine ⟨_, _, succeeds_inOrder.2 ⟨_, s, _, _, _,
    succeeds_addAll_of_isThere ?_ (fun a ha => hthere a ?_) r₀, hprovider',
    succeeds_addAll_of_isThere ?_ (fun a ha => hgrows'.isThere (hthere a ?_)) _, hfactory',
    rfl⟩, ?_⟩
  · simp [EntityTree.artifact, ArtifactKind.isKept]
  · exact List.mem_append_left _ ha
  · simp [FieldsTree.artifact, ArtifactKind.isKept]
  · exact List.mem_append_right _ (List.mem_cons_of_mem _ (List.mem_append_left _ ha))
  -- what it writes anew
  have hne := landing_factory_ne plan.factory plan.providerInterface t.current root
  have hp := FileTree.ne_nil_of_not_isDirectory (hgrows₃.not_isDirectory hwritten.node)
  have hq := FileTree.ne_nil_of_not_isDirectory
    ((FileTree.Grows.refl s).not_isDirectory hwritten'.node)
  have hfactoryNode := hwritten'.node
  have hsame := node?_provider hprovider hgrows₃ hfactory
  rw [hcurrent₁] at hp hsame
  rw [hcurrent₃] at hq hfactoryNode
  rw [sparesProvider_iff hentities hprovider hfields, ← hsame]
  exact FileTree.same_put_iff hp hq hne hfactoryNode

/-- A field interface on a settled path finds the common interface where that lies. -/
theorem sparesProvider_of_settles {r₀ : Report} (hwf : t.WellFormed)
    (h : Succeeds (r₀.addAll root plan.inOrder) t r s)
    (hsettles : ∀ f ∈ plan.fields, f.artifact.file.landing t.current root =
      plan.providerInterface.artifact.file.landing t.current root →
        t.Settles (f.artifact.file.pathIn root)) : plan.SparesProvider root t := by
  intro x hx hkind heq
  obtain ⟨r₁, t₁, t₂, r₂, t₃, hentities, hprovider, hfields, hfactory, -⟩ := succeeds_inOrder.1 h
  have hx₂ := (mem_reached_fields hentities hprovider hfields).1 ⟨hx, hkind⟩
  obtain ⟨f, hf, hartifact⟩ := List.mem_map.1 (mem_of_mem_reached hx₂)
  have hwritten := written_of_write hprovider
  have hnode := hwritten.node
  rw [(grows_addAll hentities).current, ← heq] at hnode
  have hgrows := (grows_of_mem_reached hfields hx₂).1
  obtain ⟨hgrows₁, hgrows₂⟩ := grows_of_mem_reached h hx
  have hthere := (hgrows.kept _ (by rw [hnode]; simp)).1
  -- where the path leads after the run
  obtain ⟨node, hend⟩ := Option.isSome_iff_exists.1 (isThere_addAll h (mem_of_mem_reached hx))
  obtain ⟨q, hq, -⟩ := Option.bind_eq_some_iff.1 hend
  have hlanding := SourceFile.landing_eq (grows_addAll h) hq
  have hfile : s.isDirectory q = false := by
    rw [← hlanding]
    exact (hgrows.trans hgrows₂).not_isDirectory hnode
  rw [hlanding] at hthere
  have hsettled : t.Settles (x.1.file.pathIn root) := by
    rw [← hartifact] at heq ⊢
    exact hsettles f hf heq
  have hplace := FileTree.place?_of_settles hsettled hgrows₁ hgrows₂ (hgrows₁.wellFormed hwf)
    hthere hfile hq
  rw [FileTree.isThere, hplace, Option.bind_some]
  exact Option.isSome_iff_ne_none.2 hthere

end

/-! ## Runs -/

section

variable {classes : ClassSet} {config : Config} {root : String}

/-- What a run comes to, and what one more run does after it. -/
theorem rerun (t : FileTree) (classes : ClassSet) (config : Config) (root : String) :
    (∀ e, planFor classes config = .error e →
      t.generate classes config root = (.error (.generation e), t)) ∧
    ∀ r s, t.generate classes config root = (.ok r, s) →
      ∃ plan, planFor classes config = .ok plan ∧
        (∀ kind, kind.isKept = true →
          r.counts kind =
            ⟨(Artifact.reached root t plan.inOrder).countP fun x =>
                x.1.kind = kind && !x.2.isThere (x.1.file.pathIn root),
              (Artifact.reached root t plan.inOrder).countP fun x =>
                x.1.kind = kind && x.2.isThere (x.1.file.pathIn root)⟩ ∧
          (r.counts kind).created + (r.counts kind).skipped =
            (ClassGraph.build classes config).roots.length) ∧
        ∃ r' s', s.generate classes config root = (.ok r', s') ∧
          (∀ kind, kind.isKept = true →
            r'.counts kind = ⟨0, (ClassGraph.build classes config).roots.length⟩) ∧
          (∀ place, place ≠ plan.providerInterface.artifact.file.landing t.current root →
            s'.node? place = s.node? place) ∧
          (s.Same s' ↔ plan.SparesProvider root t) ∧
          (t.WellFormed →
            (∀ f ∈ plan.fields, f.artifact.file.landing t.current root =
              plan.providerInterface.artifact.file.landing t.current root →
                t.Settles (f.artifact.file.pathIn root)) → s.Same s') := by
  refine ⟨fun e he => generate_of_error he t, fun r s hrun => ?_⟩
  obtain ⟨plan, hplan, h⟩ := generate_eq_ok_iff.1 hrun
  obtain ⟨r', s', h', hother, hsame⟩ := again_inOrder h
  refine ⟨plan, hplan, fun kind hkind => ⟨counts_addAll h rfl hkind, counts_total hplan h hkind⟩,
    r', s', generate_eq_ok_iff.2 ⟨plan, hplan, h'⟩, fun kind hkind => ?_, hother,
    hsame, fun hwf hsettles => hsame.2 (sparesProvider_of_settles hwf h hsettles)⟩
  have htotal := counts_total hplan h' hkind
  have hthere := isThere_again h h'
  have hcreated : (r'.counts kind).created = 0 := by
    rw [counts_addAll h' rfl hkind, List.countP_eq_zero]
    intro x hx
    simp [hthere x hx]
  rw [hcreated, Nat.zero_add] at htotal
  rw [← hcreated, ← htotal]

theorem rerun_keep :
    edited.generate (single "Keep") { identityName := "" } "out" =
      (.error (.generation (.invalidConfig .emptyIdentityName)), edited) ∧
    ∃ r s, edited.generate (single "Keep") shortPackages "out" = (.ok r, s) ∧ edited.WellFormed ∧
      ∃ r' s', s.generate (single "Keep") shortPackages "out" = (.ok r', s') ∧ s.Same s' := by
  have hname : "Keep" ∈ keepNames := by decide
  have hok : (edited.generate (single "Keep") shortPackages "out").1.toOption.isSome = true := by
    rw [FileTree.generate, generate, planFor_single hname]
    decide +kernel
  refine ⟨(rerun edited (single "Keep") { identityName := "" } "out").1 _ rfl, ?_⟩
  obtain ⟨r, h⟩ := exists_generate_eq hok
  obtain ⟨plan, hplan, -, r', s', h', -, -, -, hsame⟩ :=
    (rerun edited (single "Keep") shortPackages "out").2 r _ h
  refine ⟨r, _, h, wellFormed_edited, r', s', h', hsame wellFormed_edited fun f hf _ => ?_⟩
  obtain ⟨_, hplan', -, -, -, hfields⟩ := exists_plan_single hname
  rw [hplan] at hplan'
  cases hplan'
  have htype := List.mem_map_of_mem (f := (·.artifact.file.typeName)) hf
  rw [hfields, List.mem_singleton] at htype
  have hstraight : f.artifact.file.IsStraight :=
    SourceFile.isStraight_of_notMem (by rw [htype]; decide)
  have hroot : edited.follow? (edited.start "out") (Path.pieces "out") = some ["out"] := by decide
  exact FileTree.settles_push hroot hstraight

end

/-! ## A field interface on a path that goes up -/

/-- Field interfaces of which the path goes up to that of the common interface. -/
def upwardFields : Config :=
  { fieldsSuffix := "/../IFieldProvider", factoryPackage := "f", fieldsPackage := "" }

theorem planFor_upwardFields :
    planFor (single "New") upwardFields =
      planOf (single "New") upwardFields (single "New").classes :=
  planFor_eq_planOf (by decide) (by decide) (List.pairwise_singleton _ _)

/-- Nothing is at the path of the field interface until a directory is made for it, and then it
leads to the common interface, which the next run writes anew. -/
theorem provider_lost : ∃ s s' : FileTree, ∃ r r',
    emptyOutput.generate (single "New") upwardFields "out" = (.ok r, s) ∧
      s.generate (single "New") upwardFields "out" = (.ok r', s') ∧ ¬ s.Same s' := by
  have hfirst : (emptyOutput.generate (single "New") upwardFields "out").1.toOption.isSome ∧
      ((emptyOutput.generate (single "New") upwardFields "out").2.generate (single "New")
        upwardFields "out").1.toOption.isSome ∧
      ((emptyOutput.generate (single "New") upwardFields "out").2.generate (single "New")
        upwardFields "out").2.node? ["out", "IFieldProvider.java"] ≠
        (emptyOutput.generate (single "New") upwardFields "out").2.node?
          ["out", "IFieldProvider.java"] := by
    simp only [generate_eq_run planFor_upwardFields]
    decide +kernel
  obtain ⟨hok, hok', hnode⟩ := hfirst
  obtain ⟨r, h⟩ := exists_generate_eq hok
  obtain ⟨r', h'⟩ := exists_generate_eq hok'
  exact ⟨_, _, r, r', h, h', fun hsame => hnode (hsame.node _)⟩

end EntityGen
