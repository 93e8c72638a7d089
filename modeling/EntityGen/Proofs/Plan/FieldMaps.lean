import EntityGen.Proofs.Plan.Own
import EntityGen.Proofs.Plan.References
import EntityGen.Summary

/-! # Planned fields and field maps

The field map that a summary shows for a class (`Inspected`) is the one that its planned entities
are made from. Own entities of a root have its names, and other types at most for fields that a
correction names (`Entity.Reflects`, kept by every move of a type). Strangers and what is nested in
them have the field map itself (`Plain`): nothing in them is corrected, so moving types passes them
by. Together, `madeFrom_of_mem_planClass`: every planned entity reflects the field map of its class,
and what is corrected in it was a stranger there (`Entity.Corrects`). Field interfaces are made from
the field maps of their classes as they are (`exists_of_mem_fieldsContext`).

**What is planned is what the summary shows** (`planned_fields`). -/

namespace EntityGen

theorem NameMap.keys_eq_of_isSome_get? {α β : Type} {m : NameMap α} {n : NameMap β}
    (h : ∀ key, (m.get? key).isSome = (n.get? key).isSome) : m.keys = n.keys := by
  have hunit : m.map (fun _ _ => ()) = n.map fun _ _ => () := by
    refine NameMap.ext_get? fun key => ?_
    have hkey := h key
    rw [NameMap.get?_map, NameMap.get?_map]
    cases hm : m.get? key <;> cases hn : n.get? key <;> simp_all
  rw [← NameMap.keys_map (fun _ _ => ()) m, hunit, NameMap.keys_map]

/-! ## Own entities -/

namespace Entity

variable {e : Entity} {fields : FieldMap}

/-- A descriptor is the one of a field map; if the field is corrected, up to its types. -/
def SameField (e : Entity) (name : String) (d d' : FieldDescriptor) : Prop :=
  d = d' ∨ (∃ k ∈ e.corrections, k.field = name) ∧
    d = { d' with stubType := d.stubType, resolvedType := d.resolvedType }

/-- The entity has the fields of a map, the corrected ones up to their types. -/
def Reflects (e : Entity) (fields : FieldMap) : Prop :=
  ∀ name, Option.Rel (e.SameField name) (e.fields.get? name) (fields.get? name)

theorem Reflects.keys (h : e.Reflects fields) : e.fields.keys = fields.keys := by
  apply NameMap.keys_eq_of_isSome_get?
  intro name
  have hname := h name
  generalize e.fields.get? name = d, fields.get? name = d' at hname
  cases hname <;> rfl

theorem Reflects.retarget (h : e.Reflects fields) (stubType target : String) :
    (e.retarget stubType target).Reflects fields := by
  intro name
  have hname := h name
  have hcorrected : (∃ k ∈ (e.retarget stubType target).corrections, k.field = name) ↔
      ∃ k ∈ e.corrections, k.field = name := by
    simp [corrections_retarget]
  rw [get?_retarget]
  generalize e.fields.get? name = d, fields.get? name = d' at hname
  cases hname with
  | none => split <;> exact .none
  | @some d d' hsame =>
    split
    · next hmoved =>
      obtain ⟨k, hk, -, hfield⟩ := hmoved
      refine .some (.inr ⟨hcorrected.2 ⟨k, hk, hfield⟩, ?_⟩)
      rcases hsame with rfl | ⟨-, heq⟩
      · rfl
      · exact congrArg (fun d : FieldDescriptor => { d with resolvedType := some target }) heq
    · unfold SameField at hsame ⊢
      rw [hcorrected]
      exact .some hsame

theorem Reflects.retargetAll {moves : List (String × String)} (h : e.Reflects fields) :
    (e.retargetAll moves).Reflects fields := by
  induction moves generalizing e with
  | nil => exact h
  | cons move moves ih => exact ih (h.retarget move.1 move.2)

/-- A field of the entity comes from the field of this name in the map. -/
theorem Reflects.exists_same (h : e.Reflects fields) {name : String} {d : FieldDescriptor}
    (hd : e.fields.get? name = some d) :
    ∃ d', fields.get? name = some d' ∧ e.SameField name d d' := by
  have hname := h name
  rw [hd] at hname
  generalize fields.get? name = o at hname
  cases hname with
  | some hsame => exact ⟨_, rfl, hsame⟩

/-- The corrections of the entity are about strangers in `current` among the fields of a map. -/
def Corrects (e : Entity) (current : String) (fields : FieldMap) : Prop :=
  ∀ k ∈ e.corrections, ∃ d, fields.get? k.field = some d ∧
    Stranger.isStranger current d = true ∧ k.stubType = d.stubType

theorem Corrects.retargetAll {moves : List (String × String)} {current : String}
    (h : e.Corrects current fields) : (e.retargetAll moves).Corrects current fields := by
  induction moves generalizing e with
  | nil => exact h
  | cons move moves ih =>
    refine ih fun k' hk' => ?_
    rw [corrections_retarget] at hk'
    obtain ⟨k, hk, rfl⟩ := List.mem_map.1 hk'
    rw [field_retargetCorrection, stubType_retargetCorrection]
    exact h k hk

end Entity

namespace ClassGraph

variable {g : ClassGraph} {root c : StubClass} {rc : ResolvedClass} {e : Entity}
  {t t' n : EntityTree} {p : PlannedClass}

/-- Before any stranger is embedded an own entity reflects the field map of its class. -/
theorem reflects_entity (g : ClassGraph) (root : StubClass) (rc : ResolvedClass) :
    (g.entity (g.correctionsOf root rc) rc).Reflects rc.fields := by
  have hagrees : (g.entity (g.correctionsOf root rc) rc).Agrees :=
    agrees_entity rc Stranger.corrections_fields_nodup
  intro name
  by_cases hname : ∃ k ∈ g.correctionsOf root rc, k.field = name
  · obtain ⟨k, hk, rfl⟩ := hname
    have hget := hagrees.get? k hk
    obtain ⟨field, d, hd, -, heq⟩ := Stranger.mem_corrections_iff.1 hk
    rw [hget]
    subst heq
    dsimp only
    rw [hd]
    exact .some (.inr ⟨⟨_, hk, rfl⟩, rfl⟩)
  · have hget : (g.entity (g.correctionsOf root rc) rc).fields.get? name = rc.fields.get? name :=
      NameMap.get?_foldl_insert_of_notMem _ _ fun hmem => hname (List.mem_map.1 hmem)
    rw [hget]
    cases rc.fields.get? name with
    | none => exact .none
    | some d => exact .some (.inl rfl)

/-- The fields of a class as its summary shows them. -/
def Inspected (g : ClassGraph) (name : String) (fields : FieldMap) : Prop :=
  ∃ c ∈ g.classes.classes, c.qualifiedName = name ∧ (g.fieldMap c).result = .ok fields ∧
    g.inspect (some name) = .ok (some fields, (g.fieldMap c).warnings)

theorem inspected_of_fieldMap (hg : g.Accepted) (hc : c ∈ g.classes.classes) {fields : FieldMap}
    (h : (g.fieldMap c).result = .ok fields) : g.Inspected c.qualifiedName fields := by
  have hfind : g.classes.find? c.qualifiedName = some c := by
    rw [ClassSet.find?, (ClassSet.findQualified?_eq_some_iff hg.wellFormed).2 ⟨hc, rfl⟩]
    rfl
  refine ⟨c, hc, rfl, h, ?_⟩
  rw [inspect, findClass, hfind]
  show (do
    let fields ← (g.fieldMap c).result
    return (some fields, (g.fieldMap c).warnings)) = _
  rw [h]
  rfl

theorem inspected_of_resolveTree (hg : g.Accepted) (hc : c ∈ g.classes.classes)
    {t : Tree ResolvedClass} (h : (g.resolveTree c).result = .ok t) (hrc : rc ∈ t.values) :
    g.Inspected rc.cls.qualifiedName rc.fields := by
  refine inspected_of_fieldMap hg ?_ ((resolveTree_ok h).2 rc hrc)
  rcases mem_classes_of_resolveTree hg hc h hrc with heq | ⟨hmem, -, -⟩
  · exact heq ▸ hc
  · exact hmem

/-- Generated field interfaces are those of classes with their field maps. -/
theorem exists_of_mem_fieldsContext (hg : g.Accepted) (hc : c ∈ g.classes.classes)
    {t : FieldsTree} (h : (g.fieldsContext c).result = .ok t) {f : FieldsInterface}
    (hf : f ∈ t.values) :
    ∃ rc nested, g.Inspected f.stubClass rc.fields ∧
      { f with isEmbedded := true } = g.fieldsInterface rc nested := by
  obtain ⟨resolved, hr, h⟩ := Diagnosed.result_bind_eq_ok.1 h
  cases h
  obtain ⟨rc, hrc, nested, heq⟩ := exists_of_mem_fieldsTree hf
  have hstub : f.stubClass = rc.cls.qualifiedName := congrArg FieldsInterface.stubClass heq
  exact ⟨rc, nested, hstub ▸ inspected_of_resolveTree hg hc hr hrc, heq⟩

/-- What is corrected in an own entity was a stranger to the root. -/
theorem corrects_entity (g : ClassGraph) (root : StubClass) (rc : ResolvedClass) :
    (g.entity (g.correctionsOf root rc) rc).Corrects root.qualifiedName rc.fields := by
  intro k hk
  obtain ⟨field, d, hd, hstranger, rfl⟩ := Stranger.mem_corrections_iff.1 hk
  exact ⟨d, hd, hstranger, rfl⟩

/-- The field map that an entity of a root is made from: its class's, changed in corrected fields
alone. -/
def MadeFrom (g : ClassGraph) (root : StubClass) (e : Entity) (fields : FieldMap) : Prop :=
  g.Inspected e.stubClass fields ∧ e.Reflects fields ∧ e.Corrects root.qualifiedName fields

theorem madeFrom_of_mem_own (hg : g.Accepted) (hroot : root ∈ g.roots)
    (h : (g.planClass root).result = .ok p) (he : e ∈ Tree.values p.entity.own) :
    ∃ fields, g.MadeFrom root e fields := by
  obtain ⟨t, moves, -, ht, hown, -, -⟩ := own_planClass hg hroot h
  rw [hown, Tree.values_map] at he
  obtain ⟨e₀, he₀, rfl⟩ := List.mem_map.1 he
  have hinspected : ∀ rc ∈ t.values, g.Inspected rc.cls.qualifiedName rc.fields := fun rc hrc =>
    inspected_of_resolveTree hg (mem_roots_iff.1 hroot).1 ht hrc
  have hstub : (e₀.retargetAll moves).stubClass = e₀.stubClass :=
    Entity.keep_retargetAll (f := (·.stubClass)) fun _ _ _ => rfl
  rcases mem_values_ownEntities_iff.1 he₀ with rfl | ⟨t', ht', rc, hrc, rfl⟩
  · have hreflects : Entity.Reflects _ t.value.fields := reflects_entity g root t.value
    have hcorrects : Entity.Corrects _ root.qualifiedName t.value.fields :=
      corrects_entity g root t.value
    exact ⟨t.value.fields, hstub ▸ hinspected _ t.value_mem_values,
      Entity.Reflects.retargetAll hreflects, Entity.Corrects.retargetAll hcorrects⟩
  · have hmem := Tree.mem_values_iff.2 (.inr ⟨t', ht', hrc⟩)
    exact ⟨rc.fields, hstub ▸ hinspected rc hmem, (reflects_entity g root rc).retargetAll,
      (corrects_entity g root rc).retargetAll⟩

/-- An own entity of a planned root reflects the field map of its class. -/
theorem reflects_of_mem_own (hg : g.Accepted) (hroot : root ∈ g.roots)
    (h : (g.planClass root).result = .ok p) (he : e ∈ Tree.values p.entity.own) :
    ∃ fields, g.Inspected e.stubClass fields ∧ e.Reflects fields := by
  obtain ⟨fields, hinspected, hreflects, -⟩ := madeFrom_of_mem_own hg hroot h he
  exact ⟨fields, hinspected, hreflects⟩

/-! ## Strangers -/

/-- Nothing in the entity is corrected; its fields are those of its class. -/
def Plain (g : ClassGraph) (e : Entity) : Prop :=
  e.corrections = [] ∧ g.Inspected e.stubClass e.fields

theorem Plain.retarget_eq (h : g.Plain e) (stubType target : String) :
    e.retarget stubType target = e := by
  obtain ⟨hnone, -⟩ := h
  rcases e with ⟨⟩
  subst hnone
  rfl

theorem Plain.retargetAll_eq (h : g.Plain e) (moves : List (String × String)) :
    e.retargetAll moves = e := by
  induction moves with
  | nil => rfl
  | cons move moves ih =>
    show (e.retarget move.1 move.2).retargetAll moves = e
    rw [h.retarget_eq, ih]

theorem plain_of_mem_strangerEntities (hg : g.Accepted) (hc : c ∈ g.classes.classes)
    {t : Tree ResolvedClass} (h : (g.resolveTree c).result = .ok t)
    {stubType entityName targetName : String}
    (he : e ∈ (g.strangerEntities stubType entityName targetName t).values) : g.Plain e := by
  have hinspected : ∀ rc ∈ t.values, g.Inspected rc.cls.qualifiedName rc.fields := fun rc hrc =>
    inspected_of_resolveTree hg hc h hrc
  rcases mem_values_strangerEntities_iff.1 he with rfl | ⟨t', ht', rc, hrc, rfl⟩
  · exact ⟨rfl, hinspected _ t.value_mem_values⟩
  · exact ⟨rfl, hinspected rc (Tree.mem_values_iff.2 (.inr ⟨t', ht', hrc⟩))⟩

/-- All that is embedded for a type is plain. -/
theorem plain_of_embeds (hg : g.Accepted) {stubType : String} (h : g.Embeds stubType n)
    (he : e ∈ Tree.values n) : g.Plain e := by
  obtain ⟨c, resolved, name, target, moves, hc, hr, rfl⟩ := h
  rw [Tree.values_map] at he
  obtain ⟨e₀, he₀, rfl⟩ := List.mem_map.1 he
  have hplain := plain_of_mem_strangerEntities hg (ClassSet.mem_of_find? hc) hr he₀
  rw [hplain.retargetAll_eq]
  exact hplain

theorem Plain.madeFrom (h : g.Plain e) (root : StubClass) : g.MadeFrom root e e.fields := by
  obtain ⟨hnone, hinspected⟩ := h
  refine ⟨hinspected, fun name => ?_, fun k hk => ?_⟩
  · cases e.fields.get? name with
    | none => exact .none
    | some d => exact .some (.inl rfl)
  · rw [hnone] at hk
    cases hk

/-- Every entity of a planned root is made from the field map of its class. -/
theorem madeFrom_of_mem_planClass (hg : g.Accepted) (hroot : root ∈ g.roots)
    (h : (g.planClass root).result = .ok p) (he : e ∈ Tree.values p.entity) :
    ∃ fields, g.MadeFrom root e fields := by
  rcases EntityTree.mem_values_iff_own.1 he with hown | ⟨n, hn, hout, hne⟩
  · exact madeFrom_of_mem_own hg hroot h hown
  · rw [(stubClass_of_planClass h).1] at hout
    obtain ⟨stubType, hembeds⟩ := exists_embeds_of_outside hg hroot h hn hout
    exact ⟨e.fields, (plain_of_embeds hg hembeds hne).madeFrom root⟩

/-- The entity of a root and the descriptor of one of its fields. -/
def plannedField (g : ClassGraph) (root : StubClass) (field : String) :
    Option (Entity × FieldDescriptor) := do
  let p ← (g.planClass root).result.toOption
  return (p.entity.value, ← p.entity.value.fields.get? field)

theorem exists_of_plannedField {α : Type} {f : Entity × FieldDescriptor → α} {field : String}
    {a : α} (h : (g.plannedField root field).map f = some a) :
    ∃ p d, (g.planClass root).result = .ok p ∧ p.entity.value.fields.get? field = some d ∧
      f (p.entity.value, d) = a := by
  obtain ⟨ed, hfield, rfl⟩ := Option.map_eq_some_iff.1 h
  obtain ⟨p, hp, hfield⟩ := Option.bind_eq_some_iff.1 hfield
  obtain ⟨d, hd, hfield⟩ := Option.bind_eq_some_iff.1 hfield
  cases hfield
  refine ⟨p, d, ?_, hd, rfl⟩
  cases hresult : (g.planClass root).result with
  | error e =>
    rw [hresult] at hp
    cases hp
  | ok p' =>
    rw [hresult] at hp
    cases hp
    rfl

/-! ## The plan -/

/-- **What is planned is what the summary shows.** Each own entity of a planned root has the fields
of its class's field map, corrected ones up to their types; each entity of an embedded stranger has
the field map of its class, and nothing in it is corrected. -/
theorem planned_fields (hg : g.Accepted) {plan : Plan} (hplan : g.plan = .ok plan) :
    ∀ t ∈ plan.entities,
      (∀ e ∈ t.own.values, ∃ fields, g.Inspected e.stubClass fields ∧
        e.fields.keys = fields.keys ∧ e.Reflects fields) ∧
      ∀ n ∈ t.children, Name.isWithin n.value.stubClass t.value.stubClass = false →
        ∀ e ∈ n.values, e.corrections = [] ∧ g.Inspected e.stubClass e.fields := by
  intro t ht
  obtain ⟨root, hroot, p, hp, rfl⟩ := (exists_root_of_mem_plan hplan).1 t ht
  constructor
  · intro e he
    obtain ⟨fields, hfields, hreflects⟩ := reflects_of_mem_own hg hroot hp he
    exact ⟨fields, hfields, hreflects.keys, hreflects⟩
  · intro n hn hout e he
    rw [(stubClass_of_planClass hp).1] at hout
    obtain ⟨stubType, hembeds⟩ := exists_embeds_of_outside hg hroot hp hn hout
    exact plain_of_embeds hg hembeds he

theorem children_namesakes :
    ∃ root ∈ namesakes.roots, root.qualifiedName = "a.Offer" ∧
      ((namesakes.planClass root).result.toOption.map fun p =>
        p.entity.children.map (·.value.stubClass)) =
        some ["a.Offer.Note", "a.Candidate.Note", "a.Person.Note"] := by
  rw [roots_namesakes]
  decide +kernel

/-- The note of a person that is embedded in the offer has the fields that the summary shows. -/
theorem planned_fields_namesakes :
    ∃ plan, namesakes.plan = .ok plan ∧ ∃ t ∈ plan.entities, ∃ n ∈ t.children,
      n.value.stubClass = "a.Person.Note" ∧
        namesakes.Inspected n.value.stubClass n.value.fields := by
  obtain ⟨plan, hplan⟩ := exists_plan fun root hroot =>
    Diagnosed.exists_of_isOk (isOk_planClass_namesakes root hroot)
  obtain ⟨root, hroot, hname, h⟩ := children_namesakes
  obtain ⟨p, hp, hchildren⟩ := Diagnosed.exists_of_toOption h
  obtain ⟨p', hp', hentity, -⟩ := exists_of_mem_roots hplan hroot
  rw [hp] at hp'
  cases hp'
  obtain ⟨n, hn, hstub⟩ :=
    List.mem_map.1 (List.mem_of_getElem? (i := 2) (congrArg (·[2]?) hchildren))
  have hout : Name.isWithin n.value.stubClass p.entity.value.stubClass = false := by
    rw [hstub, (stubClass_of_planClass hp).1, hname]
    decide
  obtain ⟨-, hstrangers⟩ := planned_fields accepted_namesakes hplan p.entity hentity
  obtain ⟨-, hfields⟩ := hstrangers n hn hout n.value n.value_mem_values
  exact ⟨plan, hplan, p.entity, hentity, n, hn, hstub, hfields⟩

end ClassGraph
end EntityGen
