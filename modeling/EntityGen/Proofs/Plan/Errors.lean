import EntityGen.Proofs.Plan.Maps
import EntityGen.Proofs.Plan.Shared

/-! # Errors of planning

Planning fails in one way only: some class of the set has an identity that cannot be cast
(`CastError`). The error is traced from the field map of a class through the trees of classes and
strangers up to the plan.

**What planning can end with** (`planning_errors`): collected maps are never missing, so neither a
context nor the plan ends with an unknown class; the plan fails if a generated class has no field
map, and there is a plan if every class has one. -/

namespace EntityGen.ClassGraph

variable {g : ClassGraph} {c : StubClass} {e : GenerationError} {t : EntityTree}

/-- The error of a class of the set: its identity has no cast to the configured type. -/
def CastError (g : ClassGraph) (e : GenerationError) : Prop :=
  ∃ c ∈ g.classes.classes, (g.fieldMap c).result = .error e ∧
    ∃ field source, e = .unmappedCast c.qualifiedName field source g.config.identityType

/-! ## Where errors come from -/

theorem castError_of_fieldMap (hc : c ∈ g.classes.classes)
    (h : (g.fieldMap c).result = .error e) : g.CastError e :=
  ⟨c, hc, h, Resolver.fieldMap_error h⟩

theorem castError_of_resolveTree (hg : g.Accepted) (hc : c ∈ g.classes.classes)
    (h : (g.resolveTree c).result = .error e) : g.CastError e := by
  obtain ⟨d, hd, h⟩ := Tree.error_of_mapLastFirst h
  have hmem := (of_mem_treeWithin hg hc hd).1
  rcases Diagnosed.result_bind_eq_error.1 h with h | ⟨fields, -, h⟩
  · exact castError_of_fieldMap hmem h
  · cases h

theorem castError_of_embedStranger (hg : g.Accepted) {stubType target : String}
    (h : (g.embedStranger t stubType target).result = .error e) : g.CastError e := by
  unfold embedStranger at h
  split at h
  · cases h
  · next c hfind =>
    rcases Diagnosed.result_bind_eq_error.1 h with h | ⟨resolved, -, h⟩
    · rw [Diagnosed.result_muted] at h
      exact castError_of_resolveTree hg (ClassSet.mem_of_find? hfind) h
    · cases h

theorem castError_of_embedStrangers (hg : g.Accepted) {strangers : List (String × String)}
    (h : (g.embedStrangers t strangers).result = .error e) : g.CastError e := by
  induction strangers generalizing t with
  | nil => cases h
  | cons stranger strangers ih =>
    rcases Diagnosed.result_bind_eq_error.1 h with h | ⟨t, -, h⟩
    · exact castError_of_embedStranger hg h
    · exact ih h

theorem castError_of_entityTree (hg : g.Accepted) {t : Tree ResolvedClass}
    (h : (g.entityTree t).result = .error e) : g.CastError e := by
  unfold entityTree at h
  dsimp only at h
  split at h
  · cases h
  · exact castError_of_embedStrangers hg h

theorem castError_of_entityContext (hg : g.Accepted) (hc : c ∈ g.classes.classes)
    (h : (g.entityContext c).result = .error e) : g.CastError e := by
  rcases Diagnosed.result_bind_eq_error.1 h with h | ⟨t, -, h⟩
  · exact castError_of_resolveTree hg hc h
  · exact castError_of_entityTree hg h

theorem castError_of_fieldsContext (hg : g.Accepted) (hc : c ∈ g.classes.classes)
    (h : (g.fieldsContext c).result = .error e) : g.CastError e := by
  rcases Diagnosed.result_bind_eq_error.1 h with h | ⟨t, -, h⟩
  · exact castError_of_resolveTree hg hc h
  · cases h

theorem castError_of_planClass (hg : g.Accepted) (hc : c ∈ g.classes.classes)
    (h : (g.planClass c).result = .error e) : g.CastError e := by
  rcases Diagnosed.result_bind_eq_error.1 h with h | ⟨t, -, h⟩
  · exact castError_of_resolveTree hg hc h
  · rcases Diagnosed.result_bind_eq_error.1 h with h | ⟨entity, -, h⟩
    · exact castError_of_entityTree hg h
    · cases h

theorem castError_of_plan (hg : g.Accepted) (h : g.plan = .error e) : g.CastError e := by
  have hroots : ∀ roots : List StubClass, (∀ root ∈ roots, root ∈ g.classes.classes) →
      (g.planClasses roots).result = .error e → g.CastError e := by
    intro roots hmem h
    induction roots with
    | nil => cases h
    | cons root roots ih =>
      rcases Diagnosed.result_bind_eq_error.1 h with h | ⟨planned, -, h⟩
      · exact castError_of_planClass hg (hmem root List.mem_cons_self) h
      · rcases Diagnosed.result_bind_eq_error.1 h with h | ⟨rest, -, h⟩
        · exact ih (fun other hother => hmem other (List.mem_cons_of_mem root hother)) h
        · cases h
  unfold plan at h
  dsimp only at h
  cases hplanned : (g.planClasses g.roots).result with
  | ok planned =>
    rw [hplanned] at h
    cases h
  | error e' =>
    rw [hplanned] at h
    cases h
    exact hroots g.roots (fun root hroot => (mem_roots_iff.1 hroot).1) hplanned

/-! ## What a plan needs -/

/-- A plan has looked at the fields of every generated class. -/
theorem exists_fieldMap_of_plan (hg : g.Accepted) {plan : Plan} (h : g.plan = .ok plan)
    (hc : c ∈ g.classes.classes) (he : g.isEligible c = true) :
    ∃ fields, (g.fieldMap c).result = .ok fields := by
  have hroot := outermost_mem_roots hg hc he
  obtain ⟨hmem, -, hin⟩ := ClassSet.outermost_spec hg.wellFormed hc
  obtain ⟨p, hp, -⟩ := exists_of_mem_roots h hroot
  obtain ⟨t, ht, -, -⟩ := planClass_ok hp
  have hvalue : c ∈ (t.map (·.cls)).values := by
    rw [(resolveTree_ok ht).1]
    exact (mem_values_treeOf_iff hg hmem).2 (.inr ⟨hc, hin, he⟩)
  rw [Tree.values_map] at hvalue
  obtain ⟨rc, hrc, rfl⟩ := List.mem_map.1 hvalue
  exact ⟨rc.fields, (resolveTree_ok ht).2 rc hrc⟩

/-- The maps collected for a class have all classes of its tree. -/
theorem exists_of_treeMaps (hg : g.Accepted) (hc : c ∈ g.classes.classes) {maps : FieldMaps}
    (h : (g.treeMaps c).result = .ok maps) {d : StubClass} (hd : d ∈ (g.treeOf c).values) :
    ∃ fields, maps.of d = .ok fields ∧ (g.fieldMap d).result = .ok fields := by
  rw [treeMaps_eq hg hc] at h
  obtain ⟨t, ht, h⟩ := Diagnosed.result_bind_eq_ok.1 h
  cases h
  rw [← (resolveTree_ok ht).1, Tree.values_map] at hd
  obtain ⟨rc, hrc, rfl⟩ := List.mem_map.1 hd
  exact ⟨rc.fields, covers_ofTree hg hc ht rc hrc, (resolveTree_ok ht).2 rc hrc⟩

/-- **The errors of planning.** The maps collected for a class have every class that the recursions
walk over, so planning from them is planning from resolved trees, and all its errors are identities
without a cast. There is no plan if a generated class has no field map; if every class of the set
has one there is a plan. -/
theorem planning_errors (hg : g.Accepted) :
    (∀ c ∈ g.classes.classes,
      (∀ maps, (g.treeMaps c).result = .ok maps → ∀ d ∈ (g.treeOf c).values,
        ∃ fields, maps.of d = .ok fields ∧ (g.fieldMap d).result = .ok fields) ∧
      g.entityContextFromMaps c = g.entityContext c ∧
      g.fieldsContextFromMaps c = g.fieldsContext c ∧
      (∀ e, (g.entityContextFromMaps c).result = .error e → g.CastError e) ∧
      ∀ e, (g.fieldsContextFromMaps c).result = .error e → g.CastError e) ∧
    (∀ workers schedule, 0 < workers → (g.runWorkers workers schedule).isDone = true →
      g.planBy workers schedule = g.planFromMaps) ∧
    (∀ e, g.planFromMaps = .error e → g.CastError e) ∧
    (∀ c ∈ g.classes.classes, g.isEligible c = true → ∀ e, (g.fieldMap c).result = .error e →
      ∃ e', g.planFromMaps = .error e') ∧
    ((∀ c ∈ g.classes.classes, ∃ fields, (g.fieldMap c).result = .ok fields) →
      ∃ plan, g.planFromMaps = .ok plan) := by
  rw [planFromMaps_eq hg]
  refine ⟨fun c hc => ⟨?_, ?_, ?_, ?_, ?_⟩, ?_, ?_, ?_, ?_⟩
  · intro maps hmaps d hd
    exact exists_of_treeMaps hg hc hmaps hd
  · exact entityContextFromMaps_eq hg hc
  · exact fieldsContextFromMaps_eq hg hc
  · intro e he
    rw [entityContextFromMaps_eq hg hc] at he
    exact castError_of_entityContext hg hc he
  · intro e he
    rw [fieldsContextFromMaps_eq hg hc] at he
    exact castError_of_fieldsContext hg hc he
  · intro workers schedule hw hdone
    exact planBy_eq_plan hw hdone
  · intro e he
    exact castError_of_plan hg he
  · intro c hc helig e he
    cases hplan : g.plan with
    | error e' => exact ⟨e', rfl⟩
    | ok plan =>
      obtain ⟨fields, hfields⟩ := exists_fieldMap_of_plan hg hplan hc helig
      rw [he] at hfields
      cases hfields
  · intro hall
    cases hplan : g.plan with
    | ok plan => exact ⟨plan, rfl⟩
    | error e =>
      obtain ⟨c, hc, he, -⟩ := castError_of_plan hg hplan
      obtain ⟨fields, hfields⟩ := hall c hc
      rw [he] at hfields
      cases hfields

/-- Of two classes whose identities cannot be cast one ends the plan. -/
theorem planning_errors_uncastable :
    uncastable.Accepted ∧ ∃ e, uncastable.planFromMaps = .error e ∧ uncastable.CastError e := by
  have hg : uncastable.Accepted :=
    accepted_of_fault?_eq_none (by decide) (by decide +kernel)
  have hnote : ∃ c ∈ uncastable.classes.classes, uncastable.isEligible c = true ∧
      (uncastable.fieldMap c).result.isOk = false := by
    decide
  obtain ⟨-, -, herror, hfail, -⟩ := planning_errors hg
  obtain ⟨c, hc, helig, hresult⟩ := hnote
  cases hfields : (uncastable.fieldMap c).result with
  | ok fields =>
    rw [hfields] at hresult
    cases hresult
  | error e =>
    obtain ⟨e', he'⟩ := hfail c hc helig e hfields
    exact ⟨hg, e', he', herror e' he'⟩

end EntityGen.ClassGraph
