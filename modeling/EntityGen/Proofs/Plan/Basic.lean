import EntityGen.Plan.Basic
import EntityGen.Proofs.Plan.Embedding

/-! # Plans of several roots

The plan of a list of roots is made of the plans of the roots, in order (`planClasses_ok_iff`,
`plan_ok`), and a root that fails before all others ends it (`planClasses_error`). -/

namespace EntityGen.ClassGraph

variable {g : ClassGraph} {root : StubClass} {roots : List StubClass} {p : PlannedClass}
  {f : FieldsInterface}

/-! ## One root -/

theorem planClass_ok (h : (g.planClass root).result = .ok p) :
    ∃ t, (g.resolveTree root).result = .ok t ∧ (g.entityTree t).result = .ok p.entity ∧
      p.fields = g.fieldsTree false t := by
  obtain ⟨t, ht, h⟩ := Diagnosed.result_bind_eq_ok.1 h
  obtain ⟨entity, hentity, h⟩ := Diagnosed.result_bind_eq_ok.1 h
  cases h
  exact ⟨t, ht, hentity, rfl⟩

/-- The planned entity of a root is its own entities with all its strangers embedded. -/
theorem planClass_root_ok (hg : g.Accepted) (hroot : root ∈ g.roots)
    (h : (g.planClass root).result = .ok p) :
    ∃ t, (g.resolveTree root).result = .ok t ∧
      (g.embedStrangers (g.ownEntities root t) (g.ownEntities root t).strangers.entries).result =
        .ok p.entity ∧
      p.fields = g.fieldsTree false t := by
  obtain ⟨hmem, htop, -⟩ := mem_roots_iff.1 hroot
  obtain ⟨t, ht, hentity, hfields⟩ := planClass_ok h
  refine ⟨t, ht, ?_, hfields⟩
  rw [← hentity, entityTree, value_cls_of_resolveTree ht, htop,
    ClassSet.outermost_of_onTop hg.wellFormed hmem htop]
  rfl

theorem embedding_planClass (hg : g.Accepted) (hroot : root ∈ g.roots)
    (h : (g.planClass root).result = .ok p) : g.Embedding [] p.entity := by
  obtain ⟨t, ht, hentity, -⟩ := planClass_root_ok hg hroot h
  exact (embedding_ownEntities hg (mem_roots_iff.1 hroot).1 ht).run hg hentity

/-- What is planned for a root carries its name. -/
theorem stubClass_of_planClass (h : (g.planClass root).result = .ok p) :
    p.entity.value.stubClass = root.qualifiedName ∧
      p.fields.value.stubClass = root.qualifiedName := by
  obtain ⟨t, ht, hentity, hfields⟩ := planClass_ok h
  refine ⟨?_, ?_⟩
  · rw [stubClass_of_entityTree hentity, value_cls_of_resolveTree ht]
  · rw [hfields, fieldsTree, Tree.value_mapRoot, Tree.value_mapWithChildren]
    exact congrArg StubClass.qualifiedName (value_cls_of_resolveTree ht)

/-- Each field interface of a tree is that of a class, but for its place. -/
theorem exists_of_mem_fieldsTree {embedded : Bool} {t : Tree ResolvedClass}
    (hf : f ∈ (g.fieldsTree embedded t).values) :
    ∃ rc ∈ t.values, ∃ nested, { f with isEmbedded := true } = g.fieldsInterface rc nested := by
  have hinner : ∀ f ∈ (t.mapWithChildren g.fieldsInterface).values,
      ∃ rc ∈ t.values, ∃ nested, f = g.fieldsInterface rc nested := by
    intro f hf
    rw [Tree.values_mapWithChildren] at hf
    obtain ⟨u, hu, rfl⟩ := List.mem_map.1 hf
    exact ⟨u.value, List.mem_map_of_mem hu, _, rfl⟩
  rw [fieldsTree, Tree.mem_values_iff, Tree.value_mapRoot, Tree.children_mapRoot] at hf
  rcases hf with rfl | hf
  · obtain ⟨rc, hrc, nested, heq⟩ :=
      hinner _ (t.mapWithChildren g.fieldsInterface).value_mem_values
    exact ⟨rc, hrc, nested, by rw [heq]; rfl⟩
  · obtain ⟨rc, hrc, nested, rfl⟩ := hinner f (Tree.mem_values_iff.2 (.inr hf))
    exact ⟨rc, hrc, nested, rfl⟩

/-! ## Several roots -/

theorem planClasses_ok_iff {planned : List PlannedClass} :
    (g.planClasses roots).result = .ok planned ↔
      List.Forall₂ (fun root p => (g.planClass root).result = .ok p) roots planned := by
  induction roots generalizing planned with
  | nil =>
    rw [planClasses, Diagnosed.result_pure, List.forall₂_nil_left_iff, Except.ok.injEq, eq_comm]
  | cons root roots ih =>
    rw [planClasses, List.forall₂_cons_left_iff, Diagnosed.result_bind_eq_ok]
    constructor
    · rintro ⟨p, hp, h⟩
      obtain ⟨ps, hps, h⟩ := Diagnosed.result_bind_eq_ok.1 h
      cases h
      exact ⟨p, ps, hp, ih.1 hps, rfl⟩
    · rintro ⟨p, ps, hp, hps, rfl⟩
      exact ⟨p, hp, Diagnosed.result_bind_eq_ok.2 ⟨ps, ih.2 hps, rfl⟩⟩

/-- The warnings of several roots are those of each, in order. -/
theorem warnings_planClasses {planned : List PlannedClass}
    (h : (g.planClasses roots).result = .ok planned) :
    (g.planClasses roots).warnings = roots.flatMap fun root => (g.planClass root).warnings := by
  induction roots generalizing planned with
  | nil => rfl
  | cons root roots ih =>
    obtain ⟨p, ps, hp, hps, rfl⟩ := List.forall₂_cons_left_iff.1 (planClasses_ok_iff.1 h)
    have hps := planClasses_ok_iff.2 hps
    rw [planClasses, Diagnosed.bind_ok hp, Diagnosed.bind_ok hps, List.flatMap_cons, ← ih hps,
      Diagnosed.pure_def]
    simp

/-- The first root that fails ends the plan with its error. -/
theorem planClasses_error {before after : List StubClass} {e : GenerationError}
    (hbefore : ∀ other ∈ before, ∃ p, (g.planClass other).result = .ok p)
    (h : (g.planClass root).result = .error e) :
    (g.planClasses (before ++ root :: after)).result = .error e := by
  induction before with
  | nil => rw [List.nil_append, planClasses, Diagnosed.bind_error h]
  | cons other before ih =>
    obtain ⟨p, hp⟩ := hbefore other List.mem_cons_self
    have hrest := ih fun o ho => hbefore o (List.mem_cons_of_mem _ ho)
    rw [List.cons_append, planClasses, Diagnosed.bind_ok hp, Diagnosed.bind_error hrest]

theorem exists_plan (h : ∀ root ∈ g.roots, ∃ p, (g.planClass root).result = .ok p) :
    ∃ plan, g.plan = .ok plan := by
  have hclasses : ∃ planned, (g.planClasses g.roots).result = .ok planned := by
    generalize g.roots = roots at h
    induction roots with
    | nil => exact ⟨[], rfl⟩
    | cons root roots ih =>
      obtain ⟨p, hp⟩ := h root List.mem_cons_self
      obtain ⟨ps, hps⟩ := ih fun other hother => h other (List.mem_cons_of_mem _ hother)
      exact ⟨p :: ps, planClasses_ok_iff.2 (.cons hp (planClasses_ok_iff.1 hps))⟩
  obtain ⟨planned, hplanned⟩ := hclasses
  refine ⟨g.assemble planned (g.planClasses g.roots).warnings (g.planClasses g.roots).logged, ?_⟩
  unfold ClassGraph.plan
  dsimp only
  rw [hplanned]
  rfl

/-- Where every class can be planned there is a plan. -/
theorem exists_plan_of_isOk
    (h : ∀ c ∈ g.classes.classes, (g.planClass c).result.isOk = true) :
    ∃ plan, g.plan = .ok plan :=
  exists_plan fun root hroot => Diagnosed.exists_of_isOk (h root (mem_roots_iff.1 hroot).1)

theorem plan_eq_assemble {plan : Plan} (h : g.plan = .ok plan) :
    ∃ planned, (g.planClasses g.roots).result = .ok planned ∧
      plan = g.assemble planned (g.planClasses g.roots).warnings
        (g.planClasses g.roots).logged := by
  unfold ClassGraph.plan at h
  dsimp only at h
  cases hplanned : (g.planClasses g.roots).result with
  | error e =>
    rw [hplanned] at h
    cases h
  | ok planned =>
    rw [hplanned] at h
    cases h
    exact ⟨planned, rfl, rfl⟩

/-- A plan holds what is planned for each root, in the order of the roots. -/
theorem plan_ok {plan : Plan} (h : g.plan = .ok plan) :
    ∃ planned, List.Forall₂ (fun root p => (g.planClass root).result = .ok p) g.roots planned ∧
      plan.entities = planned.map (·.entity) ∧ plan.fields = planned.map (·.fields) ∧
      plan.warnings = g.roots.flatMap fun root => (g.planClass root).warnings := by
  obtain ⟨planned, hplanned, rfl⟩ := plan_eq_assemble h
  exact ⟨planned, planClasses_ok_iff.1 hplanned, rfl, rfl, warnings_planClasses hplanned⟩

theorem factory_of_plan {plan : Plan} (h : g.plan = .ok plan) : plan.factory = g.factory := by
  obtain ⟨planned, -, rfl⟩ := plan_eq_assemble h
  rfl

theorem exists_of_mem_roots {plan : Plan} (h : g.plan = .ok plan) (hroot : root ∈ g.roots) :
    ∃ p, (g.planClass root).result = .ok p ∧ p.entity ∈ plan.entities ∧ p.fields ∈ plan.fields := by
  obtain ⟨planned, hplanned, hentities, hfields, -⟩ := plan_ok h
  obtain ⟨i, hi, rfl⟩ := List.mem_iff_getElem.1 hroot
  have hi' := hplanned.length_eq ▸ hi
  refine ⟨planned[i], hplanned.get hi hi', ?_, ?_⟩
  · rw [hentities]
    exact List.mem_map_of_mem (List.getElem_mem hi')
  · rw [hfields]
    exact List.mem_map_of_mem (List.getElem_mem hi')

theorem mem_entities_of_planClass {plan : Plan} (h : g.plan = .ok plan) (hroot : root ∈ g.roots)
    (hp : (g.planClass root).result = .ok p) : p.entity ∈ plan.entities := by
  obtain ⟨p', hp', hmem, -⟩ := exists_of_mem_roots h hroot
  rw [hp] at hp'
  cases hp'
  exact hmem

/-- What a plan holds is planned for some root. -/
theorem exists_root_of_mem_plan {plan : Plan} (h : g.plan = .ok plan) :
    (∀ t ∈ plan.entities, ∃ root ∈ g.roots, ∃ p,
        (g.planClass root).result = .ok p ∧ t = p.entity) ∧
      ∀ t ∈ plan.fields, ∃ root ∈ g.roots, ∃ p,
        (g.planClass root).result = .ok p ∧ t = p.fields := by
  obtain ⟨planned, hplanned, hentities, hfields, -⟩ := plan_ok h
  have hroot : ∀ p ∈ planned, ∃ root ∈ g.roots, (g.planClass root).result = .ok p := by
    intro p hp
    obtain ⟨i, hi, rfl⟩ := List.mem_iff_getElem.1 hp
    have hi' := hplanned.length_eq ▸ hi
    exact ⟨g.roots[i], List.getElem_mem hi', hplanned.get hi' hi⟩
  refine ⟨fun t ht => ?_, fun t ht => ?_⟩
  · rw [hentities] at ht
    obtain ⟨p, hp, rfl⟩ := List.mem_map.1 ht
    obtain ⟨root, hr, hp⟩ := hroot p hp
    exact ⟨root, hr, p, hp, rfl⟩
  · rw [hfields] at ht
    obtain ⟨p, hp, rfl⟩ := List.mem_map.1 ht
    obtain ⟨root, hr, hp⟩ := hroot p hp
    exact ⟨root, hr, p, hp, rfl⟩

end EntityGen.ClassGraph
