import EntityGen.Proofs.Plan.FreeName
import EntityGen.Proofs.Plan.Resolved
import EntityGen.Proofs.Stranger
import Mathlib.Data.List.Nodup

/-! # Entities of one tree

The steps of planning an entity, one by one:

* `Entity.agrees_retarget`: moving a type anew keeps fields and corrections in agreement; moving it
  to where it is changes nothing (`Entity.retarget_eq_self`).
* `names_nodup_of_subtrees`: the entities directly in one have different names.
* `embedStranger_cases`: what embedding one stranger does to a tree. -/

namespace EntityGen

/-! ## Moving a type anew -/

namespace Entity

variable {stubType target name : String} {e : Entity} {d : FieldDescriptor}

@[simp] theorem entityName_retarget : (e.retarget stubType target).entityName = e.entityName := rfl

@[simp] theorem targetName_retarget : (e.retarget stubType target).targetName = e.targetName := rfl

@[simp] theorem stubClass_retarget : (e.retarget stubType target).stubClass = e.stubClass := rfl

@[simp] theorem constructors_retarget :
    (e.retarget stubType target).constructors = e.constructors := rfl

theorem corrections_retarget : (e.retarget stubType target).corrections =
    e.corrections.map (retargetCorrection stubType target) := rfl

@[simp] theorem field_retargetCorrection (k : OwnershipCorrection) :
    (retargetCorrection stubType target k).field = k.field := by
  unfold retargetCorrection
  split <;> rfl

@[simp] theorem stubType_retargetCorrection (k : OwnershipCorrection) :
    (retargetCorrection stubType target k).stubType = k.stubType := by
  unfold retargetCorrection
  split <;> rfl

@[simp] theorem isKnownEntity_retargetCorrection (k : OwnershipCorrection) :
    (retargetCorrection stubType target k).descriptor.isKnownEntity =
      k.descriptor.isKnownEntity := by
  unfold retargetCorrection
  split <;> rfl

theorem retargetCorrection_of_ne {k : OwnershipCorrection} (h : k.stubType ≠ stubType) :
    retargetCorrection stubType target k = k := if_neg h

theorem resolvedType_retargetCorrection {k : OwnershipCorrection} (h : k.stubType = stubType) :
    (retargetCorrection stubType target k).descriptor.resolvedType = some target := by
  rw [retargetCorrection, if_pos h]

theorem get?_foldl_modify (names : List String) (fields : FieldMap) :
    (names.foldl (fun fields name =>
      fields.modify name fun d => { d with resolvedType := some target }) fields).get? name =
      if name ∈ names then (fields.get? name).map fun d => { d with resolvedType := some target }
      else fields.get? name := by
  induction names generalizing fields with
  | nil => rfl
  | cons n names ih =>
    rw [List.foldl_cons, ih, NameMap.get?_modify]
    by_cases hn : name = n
    · subst hn
      cases fields.get? name <;> simp
    · simp [hn]

/-- The fields of a type that is moved anew get the new type, and no others. -/
theorem get?_retarget : (e.retarget stubType target).fields.get? name =
    if ∃ k ∈ e.corrections, k.stubType = stubType ∧ k.field = name then
      (e.fields.get? name).map fun d => { d with resolvedType := some target }
    else e.fields.get? name := by
  rw [retarget, get?_foldl_modify]
  simp only [List.mem_map, List.mem_filter, decide_eq_true_eq, and_assoc]

/-- The fields named by corrections have the descriptors of these. -/
structure Agrees (e : Entity) : Prop where
  /-- No two corrections are about one field. -/
  distinct : (e.corrections.map (·.field)).Nodup
  get? : ∀ k ∈ e.corrections, e.fields.get? k.field = some k.descriptor

/-- A field that has the descriptor of its correction has that of the moved one afterwards. -/
theorem get?_field_retarget {k : OwnershipCorrection}
    (hdistinct : (e.corrections.map (·.field)).Nodup) (hk : k ∈ e.corrections)
    (h : e.fields.get? k.field = some k.descriptor) :
    (e.retarget stubType target).fields.get? k.field =
      some (retargetCorrection stubType target k).descriptor := by
  rw [get?_retarget, h]
  by_cases hs : k.stubType = stubType
  · rw [if_pos ⟨k, hk, hs, rfl⟩, retargetCorrection, if_pos hs]
    rfl
  · -- the field of another correction is another field
    rw [if_neg, retargetCorrection_of_ne hs]
    rintro ⟨k₂, hk₂, hs₂, hfield⟩
    exact hs (List.inj_on_of_nodup_map hdistinct hk₂ hk hfield ▸ hs₂)

theorem agrees_retarget (h : e.Agrees) : (e.retarget stubType target).Agrees := by
  refine ⟨?_, fun k' hk' => ?_⟩
  · rw [corrections_retarget, List.map_map]
    exact (List.map_congr_left fun k _ => field_retargetCorrection k) ▸ h.distinct
  · rw [corrections_retarget] at hk'
    obtain ⟨k, hk, rfl⟩ := List.mem_map.1 hk'
    rw [field_retargetCorrection]
    exact get?_field_retarget h.distinct hk (h.get? k hk)

/-- Moving a type to where it is changes nothing. -/
theorem retarget_eq_self (h : e.Agrees)
    (ht : ∀ k ∈ e.corrections, k.stubType = stubType → k.descriptor.resolvedType = some target) :
    e.retarget stubType target = e := by
  have hset : ∀ d : FieldDescriptor, d.resolvedType = some target →
      { d with resolvedType := some target } = d := fun d hd => by rw [← hd]
  have hcorrections : (e.retarget stubType target).corrections = e.corrections := by
    rw [corrections_retarget]
    refine (List.map_congr_left fun k hk => ?_).trans (List.map_id _)
    by_cases hs : k.stubType = stubType
    · rw [retargetCorrection, if_pos hs, hset _ (ht k hk hs)]
      rfl
    · exact retargetCorrection_of_ne hs
  have hfields : (e.retarget stubType target).fields = e.fields := by
    refine NameMap.ext_get? fun name => ?_
    rw [get?_retarget]
    split
    · next hk =>
      obtain ⟨k, hk, hs, rfl⟩ := hk
      rw [h.get? k hk, Option.map_some, hset _ (ht k hk hs)]
    · rfl
  calc e.retarget stubType target
      = { e with corrections := (e.retarget stubType target).corrections
                 fields := (e.retarget stubType target).fields } := rfl
    _ = e := by rw [hcorrections, hfields]

end Entity

namespace EntityTree

variable {t : EntityTree} {e : Entity} {stubType target : String}

@[simp] theorem value_retarget :
    Tree.value (t.retarget stubType target) = Entity.retarget stubType target t.value := by
  rw [retarget, Tree.value_map]

@[simp] theorem children_retarget :
    Tree.children (t.retarget stubType target) = t.children.map (retarget stubType target) := by
  rw [retarget, Tree.children_map]
  rfl

theorem mem_values_retarget_iff :
    e ∈ Tree.values (t.retarget stubType target) ↔
      ∃ e₀ ∈ t.values, e = e₀.retarget stubType target := by
  rw [retarget, Tree.values_map, List.mem_map]
  simp only [eq_comm]

end EntityTree

namespace ClassGraph

variable {g : ClassGraph} {c root : StubClass} {t : Tree ResolvedClass} {e : Entity}

/-! ## Entities of classes -/

theorem agrees_entity {corrections : List OwnershipCorrection} (c : ResolvedClass)
    (h : (corrections.map (·.field)).Nodup) : (g.entity corrections c).Agrees :=
  ⟨h, fun _ hk => NameMap.get?_foldl_insert_of_mem _ _ h hk⟩

/-- A field of an entity is corrected, or a field of its class. -/
theorem get?_entity {corrections : List OwnershipCorrection} {c : ResolvedClass} {name : String}
    {d : FieldDescriptor} (h : (g.entity corrections c).fields.get? name = some d) :
    (∃ k ∈ corrections, k.field = name) ∨ c.fields.get? name = some d := by
  by_cases hk : name ∈ corrections.map (·.field)
  · exact .inl (List.mem_map.1 hk)
  · right
    rw [← h]
    exact (NameMap.get?_foldl_insert_of_notMem _ _ hk).symm

theorem value_cls_of_resolveTree (h : (g.resolveTree c).result = .ok t) : t.value.cls = c := by
  have hmap := congrArg Tree.value (resolveTree_ok h).1
  rwa [Tree.value_map, value_treeOf] at hmap

/-- The resolved classes directly below a node have different names. -/
theorem names_nodup_of_subtrees (hg : g.Accepted) (hc : c ∈ g.classes.classes)
    (h : (g.resolveTree c).result = .ok t) {u : Tree ResolvedClass} (hu : u ∈ t.subtrees) :
    (u.children.map (·.value.cls.name)).Nodup := by
  have hmem : u.map (·.cls) ∈ (g.treeOf c).subtrees := by
    rw [← (resolveTree_ok h).1, Tree.subtrees_map]
    exact List.mem_map_of_mem hu
  obtain ⟨hvalue, hchildren⟩ := children_of_mem_subtrees hg hc hmem
  have hnames := children_names_nodup hg hvalue
  rw [← hchildren, Tree.children_map, List.map_map, List.map_map] at hnames
  simpa [Function.comp_def] using hnames

theorem children_of_resolveTree (hg : g.Accepted) (hc : c ∈ g.classes.classes)
    (h : (g.resolveTree c).result = .ok t) :
    t.children.map (·.value.cls) = g.children c := by
  have hself : g.treeOf c ∈ (g.treeOf c).subtrees := Tree.mem_subtrees_iff.2 (.inl rfl)
  have hchildren := (children_of_mem_subtrees hg hc hself).2
  rw [← (resolveTree_ok h).1, Tree.children_map, List.map_map, Tree.value_map,
    value_cls_of_resolveTree h] at hchildren
  simpa [Function.comp_def] using hchildren

theorem mem_classes_of_resolveTree (hg : g.Accepted) (hc : c ∈ g.classes.classes)
    (h : (g.resolveTree c).result = .ok t) {rc : ResolvedClass} (hrc : rc ∈ t.values) :
    rc.cls = c ∨ rc.cls ∈ g.classes.classes ∧ g.classes.LiesIn rc.cls c ∧
      g.isEligible rc.cls = true := by
  refine (mem_values_treeOf_iff hg hc).1 ?_
  rw [← (resolveTree_ok h).1, Tree.values_map]
  exact List.mem_map_of_mem hrc

theorem generated_of_resolveTree (hg : g.Accepted) (hroot : root ∈ g.roots)
    (h : (g.resolveTree root).result = .ok t) {rc : ResolvedClass} (hrc : rc ∈ t.values) :
    rc.cls ∈ g.classes.classes ∧ g.isEligible rc.cls = true ∧
      g.classes.outermost rc.cls = root := by
  refine of_mem_treeOf_root hg hroot ?_
  rw [← (resolveTree_ok h).1, Tree.values_map]
  exact List.mem_map_of_mem hrc

/-- Entities directly in one have different names, whatever is corrected in them. -/
theorem entityNames_nodup (hg : g.Accepted) (hc : c ∈ g.classes.classes)
    (h : (g.resolveTree c).result = .ok t) (corrections : ResolvedClass → List OwnershipCorrection)
    {u : EntityTree} (hu : u ∈ (t.map fun c => g.entity (corrections c) c).subtrees) :
    (u.children.map (·.value.entityName)).Nodup := by
  rw [Tree.subtrees_map] at hu
  obtain ⟨v, hv, rfl⟩ := List.mem_map.1 hu
  have hnames := names_nodup_of_subtrees hg hc h hv
  rw [Tree.children_map, List.map_map]
  have hsuffix : v.children.map ((fun n : EntityTree => n.value.entityName) ∘
      Tree.map fun c => g.entity (corrections c) c) =
      (v.children.map (·.value.cls.name)).map (· ++ g.config.entitySuffix) := by
    rw [List.map_map]
    exact List.map_congr_left fun w _ => by simp [entity]
  rw [hsuffix]
  exact hnames.map fun a b hab => (String.append_left_inj g.config.entitySuffix).1 hab

/-! ## Own entities and those of strangers -/

theorem mem_values_ownEntities_iff :
    e ∈ (g.ownEntities root t).values ↔
      e = { g.entity (g.correctionsOf root t.value) t.value with
            isEmbedded := t.value.cls.isNested } ∨
        ∃ t' ∈ t.children, ∃ c ∈ t'.values, e = g.entity (g.correctionsOf root c) c := by
  rw [ownEntities, Tree.mem_values_iff]
  simp only [Tree.value_mapRoot, Tree.value_map, Tree.children_mapRoot, Tree.children_map,
    List.mem_map, exists_exists_and_eq_and, Tree.values_map, eq_comm (b := e)]

/-- The entities of a stranger are those of its classes; the first has names of its own. -/
theorem mem_values_strangerEntities_iff {stubType name target : String} :
    e ∈ (g.strangerEntities stubType name target t).values ↔
      e = { g.entity [] t.value with
            entityName := name
            targetName := target
            constructors := (g.entity [] t.value).constructors.add stubType } ∨
        ∃ t' ∈ t.children, ∃ c ∈ t'.values, e = g.entity [] c := by
  rw [strangerEntities, Tree.mem_values_iff]
  simp only [Tree.value_mapRoot, Tree.value_map, Tree.children_mapRoot, Tree.children_map,
    List.mem_map, exists_exists_and_eq_and, Tree.values_map, eq_comm (b := e)]

/-! ## One stranger -/

/-- What names a stranger: its name is free, and its new type is the old one or replaces it
everywhere. -/
theorem nameStranger_cases (g : ClassGraph) (t : EntityTree) (c : StubClass)
    (stubType target : String) :
    ∃ t₀ name target', g.nameStranger t c stubType target = (t₀, name, target') ∧
      name ∉ t.nestedNames ∧ (t₀ = t ∧ target' = target ∨ t₀ = t.retarget stubType target') := by
  unfold nameStranger
  dsimp only
  split
  · exact ⟨_, _, _, rfl, freeName_notMem _ _, .inr rfl⟩
  · next h => exact ⟨_, _, _, rfl, by simpa using h, .inl ⟨rfl, rfl⟩⟩

/-- A stranger without a class changes nothing. Any other gets its entities below the root under a
free name, with its type the old one or in place of it. -/
theorem embedStranger_cases {t t' : EntityTree} {stubType target : String}
    (h : (g.embedStranger t stubType target).result = .ok t') :
    g.classes.find? stubType = none ∧ t' = t ∨
      ∃ c resolved t₀ name target', g.classes.find? stubType = some c ∧
        (g.resolveTree c).result = .ok resolved ∧ name ∉ t.nestedNames ∧
        (t₀ = t ∧ target' = target ∨ t₀ = t.retarget stubType target') ∧
        t' = t₀.addChild (g.strangerEntities stubType name target' resolved) := by
  unfold embedStranger at h
  split at h
  · next hc =>
    cases h
    exact .inl ⟨hc, rfl⟩
  · next c hc =>
    obtain ⟨t₀, name, target', hname, hfree, ht₀⟩ := nameStranger_cases g t c stubType target
    rw [hname] at h
    obtain ⟨resolved, hresolved, h⟩ := Diagnosed.result_bind_eq_ok.1 h
    cases h
    rw [Diagnosed.result_muted] at hresolved
    exact .inr ⟨c, resolved, t₀, name, target', hc, hresolved, hfree, ht₀, rfl⟩

end ClassGraph
end EntityGen
