import EntityGen.Proofs.Plan.Entity

/-! # Embedding strangers

What holds of the entities of a root while its strangers are embedded, those of `pending` still to
come (`ClassGraph.Embedding`). It holds of the own entities of a root with all strangers pending
(`embedding_ownEntities`), is kept by every stranger (`Embedding.step`), and so holds with none
pending once all are embedded (`Embedding.run`). What no retargeting changes in an entity is kept
all along (`keep_of_entityTree`), only strangers' entities are added (`origin_of_embedStrangers`),
and what holds of these and of the own ones holds of all (`forall_of_entityTree`). -/

namespace EntityGen

namespace EntityTree

variable {t : EntityTree} {k : OwnershipCorrection} {stubType target : String}

theorem mem_corrections_iff : k ∈ t.corrections ↔ ∃ e ∈ t.values, k ∈ e.corrections :=
  List.mem_flatMap

/-- A moved type has its place: exactly one entity directly below the root is of this stub, is the
generated type of the field, and can be built from the stub. -/
def HasPlaceOf (t : EntityTree) (k : OwnershipCorrection) : Prop :=
  ∃ n, t.children.filter (·.value.stubClass = k.stubType) = [n] ∧
    k.descriptor.resolvedType = some n.value.targetName ∧
    n.value.constructors.contains k.stubType = true

theorem HasPlaceOf.exists_mem (h : t.HasPlaceOf k) : ∃ n ∈ t.children,
    n.value.stubClass = k.stubType ∧ k.descriptor.resolvedType = some n.value.targetName := by
  obtain ⟨n, hn, hresolved, -⟩ := h
  have hmem : n ∈ t.children.filter (·.value.stubClass = k.stubType) := by simp [hn]
  rw [List.mem_filter, decide_eq_true_eq] at hmem
  exact ⟨n, hmem.1, hmem.2, hresolved⟩

/-! ## Moved types -/

theorem get?_strangers_foldl {types : NameMap String} {T : String → String}
    {ks : List OwnershipCorrection}
    (hT : ∀ k ∈ ks, k.descriptor.resolvedType = some (T k.stubType)) :
    (ks.foldl (fun types c =>
      match c.descriptor.resolvedType with
      | some target => types.insertIfNew c.stubType target
      | none => types) types).get? stubType =
      (types.get? stubType).or
        (if ks.any (·.stubType = stubType) then some (T stubType) else none) := by
  induction ks generalizing types with
  | nil => simp
  | cons k ks ih =>
    rw [List.foldl_cons, ih fun k' hk' => hT k' (List.mem_cons_of_mem _ hk'),
      hT k List.mem_cons_self, NameMap.get?_insertIfNew, List.any_cons]
    by_cases hs : k.stubType = stubType
    · subst hs
      cases types.get? k.stubType <;> simp
    · simp [hs, Ne.symm hs]

/-- Where all corrections of a type agree on its generated type, this is what counts for it. -/
theorem mem_strangers_iff {T : String → String}
    (hT : ∀ k ∈ t.corrections, k.descriptor.resolvedType = some (T k.stubType)) :
    (stubType, target) ∈ t.strangers.entries ↔
      (∃ k ∈ t.corrections, k.stubType = stubType) ∧ target = T stubType := by
  have hget : t.strangers.get? stubType =
      if t.corrections.any (·.stubType = stubType) then some (T stubType) else none :=
    get?_strangers_foldl hT
  rw [← NameMap.get?_eq_some_iff, hget]
  split
  · next h =>
    have hk : ∃ k ∈ t.corrections, k.stubType = stubType := by simpa using h
    rw [Option.some.injEq, eq_comm]
    exact ⟨fun e => ⟨hk, e⟩, fun e => e.2⟩
  · next h =>
    refine ⟨nofun, fun hk => absurd ?_ h⟩
    simpa using hk.1

end EntityTree

namespace ClassGraph

variable {g : ClassGraph} {t t' : EntityTree} {e : Entity} {pending : List (String × String)}
  {root c : StubClass} {stubType target : String}

/-! ## The invariant -/

/-- What holds of every planned entity. -/
structure Sound (g : ClassGraph) (e : Entity) : Prop where
  agrees : e.Agrees
  /-- A field that is not corrected is as its class has it. -/
  sourced : ∀ name d, e.fields.get? name = some d →
    (∃ k ∈ e.corrections, k.field = name) ∨ ∃ r : Resolver, r.targets = g.targets ∧ r.Rule d
  /-- The superclass has an entity, or is left out. -/
  superclass : e.superclass = TypeName.object ∨ ∃ stub, g.targets.get? stub = some e.superclass
  known : ∀ k ∈ e.corrections, k.descriptor.isKnownEntity = true →
    g.targets.contains k.stubType = true

/-- What holds of the entities of a root while the strangers of `pending` are still to come. -/
structure Embedding (g : ClassGraph) (pending : List (String × String)) (t : EntityTree) :
    Prop where
  /-- Entities directly in one have different names. -/
  names : ∀ u ∈ t.subtrees, (u.children.map (·.value.entityName)).Nodup
  sound : ∀ e ∈ t.values, g.Sound e
  /-- A moved type is pending, has no class, or has its place. -/
  moved : ∀ k ∈ t.corrections,
    (∃ target, (k.stubType, target) ∈ pending ∧ k.descriptor.resolvedType = some target) ∨
      g.classes.find? k.stubType = none ∨ t.HasPlaceOf k
  keys : (pending.map (·.1)).Nodup
  dotted : ∀ p ∈ pending, '$' ∉ p.1.toList
  /-- What is pending has no place yet. -/
  absent : ∀ p ∈ pending, ∀ n ∈ t.children, n.value.stubClass ≠ p.1

/-- Whether an entity is sound depends on its fields, corrections and superclass alone. -/
theorem Sound.congr {e' : Entity} (h : g.Sound e) (hfields : e'.fields = e.fields)
    (hcorrections : e'.corrections = e.corrections) (hsuper : e'.superclass = e.superclass) :
    g.Sound e' := by
  obtain ⟨⟨hdistinct, hget⟩, hsourced, hsuperclass, hknown⟩ := h
  rw [← hcorrections] at hdistinct hget hsourced hknown
  rw [← hfields] at hget hsourced
  rw [← hsuper] at hsuperclass
  exact ⟨⟨hdistinct, hget⟩, hsourced, hsuperclass, hknown⟩

theorem Sound.retarget (h : g.Sound e) : g.Sound (e.retarget stubType target) := by
  refine ⟨Entity.agrees_retarget h.agrees, fun name d hd => ?_, h.superclass, fun k' hk' => ?_⟩
  · rw [Entity.get?_retarget] at hd
    rw [Entity.corrections_retarget]
    split at hd
    · next hk =>
      obtain ⟨k, hk, -, hfield⟩ := hk
      exact .inl ⟨_, List.mem_map_of_mem hk, (Entity.field_retargetCorrection k).trans hfield⟩
    · rcases h.sourced name d hd with ⟨k, hk, hfield⟩ | hrule
      · exact .inl ⟨_, List.mem_map_of_mem hk, (Entity.field_retargetCorrection k).trans hfield⟩
      · exact .inr hrule
  · rw [Entity.corrections_retarget] at hk'
    obtain ⟨k, hk, rfl⟩ := List.mem_map.1 hk'
    rw [Entity.isKnownEntity_retargetCorrection, Entity.stubType_retargetCorrection]
    exact h.known k hk

/-- The entity of a class is sound if its corrections are those of strangers. -/
theorem sound_entity {corrections : List OwnershipCorrection} {rc : ResolvedClass}
    (hfields : (g.fieldMap rc.cls).result = .ok rc.fields)
    (hnodup : (corrections.map (·.field)).Nodup)
    (hknown : ∀ k ∈ corrections, k.descriptor.isKnownEntity = true →
      g.targets.contains k.stubType = true) : g.Sound (g.entity corrections rc) := by
  refine ⟨agrees_entity rc hnodup, fun name d hd => ?_, ?_, hknown⟩
  · exact (get?_entity hd).imp_right fun hd => ⟨_, rfl, (Resolver.rule_of_fieldMap hfields hd).1⟩
  · simp only [entity]
    cases hsuper : rc.cls.superclass.bind g.targets.get? with
    | none => exact .inl rfl
    | some target =>
      obtain ⟨stub, -, hstub⟩ := Option.bind_eq_some_iff.1 hsuper
      exact .inr ⟨stub, hstub⟩

/-! ## The own entities of a root -/

theorem moves_of_mem_correctionsOf {rc : ResolvedClass} {k : OwnershipCorrection}
    (hfields : (g.fieldMap rc.cls).result = .ok rc.fields) (hk : k ∈ g.correctionsOf root rc) :
    Stranger.Moves g.classes g.targets root k :=
  Stranger.moves_of_mem_corrections (r := g.resolver (g.classes.outermost rc.cls))
    (fun _ _ h => Resolver.rule_of_fieldMap hfields h) hk

/-- An entity of a tree is sound, and that of a class of the tree. -/
theorem sound_of_mem_ownEntities {t : Tree ResolvedClass} (h : (g.resolveTree c).result = .ok t)
    (he : e ∈ (g.ownEntities root t).values) :
    g.Sound e ∧ ∃ rc ∈ t.values, e.stubClass = rc.cls.qualifiedName := by
  have hsound : ∀ rc ∈ t.values, g.Sound (g.entity (g.correctionsOf root rc) rc) := fun rc hrc =>
    have hfields := (resolveTree_ok h).2 rc hrc
    sound_entity hfields Stranger.corrections_fields_nodup fun k hk =>
      (moves_of_mem_correctionsOf hfields hk).known
  rcases mem_values_ownEntities_iff.1 he with rfl | ⟨t', ht', rc, hrc, rfl⟩
  · exact ⟨(hsound _ t.value_mem_values).congr rfl rfl rfl, _, t.value_mem_values, rfl⟩
  · have hrc := Tree.mem_values_iff.2 (.inr ⟨t', ht', hrc⟩)
    exact ⟨hsound rc hrc, rc, hrc, rfl⟩

theorem isWithin_append (owner name : String) :
    Name.isWithin (owner ++ "." ++ name) owner = true := by
  have hstrip : Text.strip? owner.toList (owner ++ "." ++ name).toList =
      some ('.' :: name.toList) := by
    rw [Text.strip?_eq_some_iff]
    simp
  rw [Name.isWithin, hstrip]
  rfl

/-- What is corrected in a tree is what is corrected in its classes. -/
theorem mem_corrections_ownEntities_iff {t : Tree ResolvedClass} {k : OwnershipCorrection} :
    k ∈ (g.ownEntities root t).corrections ↔ ∃ rc ∈ t.values, k ∈ g.correctionsOf root rc := by
  rw [EntityTree.mem_corrections_iff]
  constructor
  · rintro ⟨e, he, hk⟩
    rcases mem_values_ownEntities_iff.1 he with rfl | ⟨t', ht', rc, hrc, rfl⟩
    · exact ⟨_, t.value_mem_values, hk⟩
    · exact ⟨rc, Tree.mem_values_iff.2 (.inr ⟨t', ht', hrc⟩), hk⟩
  · rintro ⟨rc, hrc, hk⟩
    rcases Tree.mem_values_iff.1 hrc with rfl | ⟨t', ht', hrc⟩
    · exact ⟨_, mem_values_ownEntities_iff.2 (.inl rfl), hk⟩
    · exact ⟨_, mem_values_ownEntities_iff.2 (.inr ⟨t', ht', rc, hrc, rfl⟩), hk⟩

theorem moves_of_mem_ownEntities {t : Tree ResolvedClass} (h : (g.resolveTree c).result = .ok t)
    {k : OwnershipCorrection} (hk : k ∈ (g.ownEntities root t).corrections) :
    Stranger.Moves g.classes g.targets root k := by
  obtain ⟨rc, hrc, hk⟩ := mem_corrections_ownEntities_iff.1 hk
  exact moves_of_mem_correctionsOf ((resolveTree_ok h).2 rc hrc) hk

/-- The strangers of a tree are the types of its corrections, moved to the root. -/
theorem mem_strangers_ownEntities_iff {t : Tree ResolvedClass}
    (h : (g.resolveTree c).result = .ok t) :
    (stubType, target) ∈ (g.ownEntities root t).strangers.entries ↔
      (∃ k ∈ (g.ownEntities root t).corrections, k.stubType = stubType) ∧
        target = Stranger.movedType g.classes g.targets root stubType :=
  EntityTree.mem_strangers_iff fun _ hk => (moves_of_mem_ownEntities h hk).resolvedType

/-- Own entities lie in the root. -/
theorem isWithin_of_mem_ownEntities (hg : g.Accepted) (hroot : root ∈ g.classes.classes)
    {t : Tree ResolvedClass} (h : (g.resolveTree root).result = .ok t) {n : EntityTree}
    (hn : n ∈ (g.ownEntities root t).children) :
    Name.isWithin n.value.stubClass root.qualifiedName = true := by
  rw [ownEntities, Tree.children_mapRoot, Tree.children_map] at hn
  obtain ⟨v, hv, rfl⟩ := List.mem_map.1 hn
  have hchild : v.value.cls ∈ g.children root := by
    rw [← children_of_resolveTree hg hroot h]
    exact List.mem_map_of_mem (f := fun n : Tree ResolvedClass => n.value.cls) hv
  obtain ⟨-, hin, -⟩ := (mem_children_iff hg hroot).1 hchild
  rw [Tree.value_map]
  change Name.isWithin v.value.cls.qualifiedName root.qualifiedName = true
  rw [hin.qualifiedName, isWithin_append]

/-- Nothing is embedded yet, and all that was moved is pending. -/
theorem embedding_ownEntities (hg : g.Accepted) (hroot : root ∈ g.classes.classes)
    {t : Tree ResolvedClass} (h : (g.resolveTree root).result = .ok t) :
    g.Embedding (g.ownEntities root t).strangers.entries (g.ownEntities root t) := by
  have hmoves : ∀ k ∈ (g.ownEntities root t).corrections,
      Stranger.Moves g.classes g.targets root k := fun _ hk => moves_of_mem_ownEntities h hk
  refine ⟨fun u hu => ?_, fun e he => (sound_of_mem_ownEntities h he).1, fun k hk => ?_,
    NameMap.keys_nodup _, fun p hp => ?_, fun p hp n hn heq => ?_⟩
  · obtain ⟨v, hv, hchildren⟩ := Tree.children_of_mem_subtrees_mapRoot hu
    rw [hchildren]
    exact entityNames_nodup hg hroot h _ hv
  · exact .inl ⟨_, (mem_strangers_ownEntities_iff h).2 ⟨⟨k, hk, rfl⟩, rfl⟩,
      (hmoves k hk).resolvedType⟩
  · obtain ⟨⟨k, hk, hs⟩, -⟩ := (mem_strangers_ownEntities_iff h).1 hp
    exact hs ▸ (hmoves k hk).dotted
  · -- moved types do not lie in the root
    obtain ⟨⟨k, hk, hs⟩, -⟩ := (mem_strangers_ownEntities_iff h).1 hp
    have houtside := hs ▸ (hmoves k hk).outside
    rw [← heq, isWithin_of_mem_ownEntities hg hroot h hn] at houtside
    cases houtside

/-! ## One stranger -/

/-- Nothing is corrected in a stranger, and its entities are sound and those of its classes. -/
theorem sound_of_mem_strangerEntities {t : Tree ResolvedClass} {name : String}
    (h : (g.resolveTree c).result = .ok t)
    (he : e ∈ (g.strangerEntities stubType name target t).values) :
    g.Sound e ∧ e.corrections = [] ∧ ∃ rc ∈ t.values, e.stubClass = rc.cls.qualifiedName := by
  have hsound : ∀ rc ∈ t.values, g.Sound (g.entity [] rc) := fun rc hrc =>
    sound_entity ((resolveTree_ok h).2 rc hrc) List.nodup_nil fun _ hk => absurd hk List.not_mem_nil
  rcases mem_values_strangerEntities_iff.1 he with rfl | ⟨t', ht', rc, hrc, rfl⟩
  · exact ⟨(hsound _ t.value_mem_values).congr rfl rfl rfl, rfl, _, t.value_mem_values, rfl⟩
  · have hrc := Tree.mem_values_iff.2 (.inr ⟨t', ht', hrc⟩)
    exact ⟨hsound rc hrc, rfl, rc, hrc, rfl⟩

theorem constructors_strangerEntities {t : Tree ResolvedClass} {name : String} :
    (g.strangerEntities stubType name target t).value.constructors.contains stubType = true :=
  NameMap.contains_iff.2 ⟨(), NameMap.get?_insert_self _ _ _⟩

theorem stubClass_strangerEntities {t : Tree ResolvedClass} {name : String} :
    (g.strangerEntities stubType name target t).value.stubClass = t.value.cls.qualifiedName := by
  rw [strangerEntities, Tree.value_mapRoot, Tree.value_map]
  rfl

theorem names_strangerEntities (hg : g.Accepted) (hc : c ∈ g.classes.classes)
    {t : Tree ResolvedClass} {name : String} (h : (g.resolveTree c).result = .ok t)
    {u : EntityTree} (hu : u ∈ (g.strangerEntities stubType name target t).subtrees) :
    (u.children.map (·.value.entityName)).Nodup := by
  obtain ⟨v, hv, hchildren⟩ := Tree.children_of_mem_subtrees_mapRoot hu
  rw [hchildren]
  exact entityNames_nodup hg hc h (fun _ => []) hv

/-- A correction below a retargeted tree with a stranger is one of the tree's, retargeted. -/
theorem mem_corrections_embedded {t : EntityTree} {resolved : Tree ResolvedClass} {name : String}
    (hr : (g.resolveTree c).result = .ok resolved) {k : OwnershipCorrection}
    (hk : k ∈ EntityTree.corrections ((t.retarget stubType target).addChild
      (g.strangerEntities stubType name target resolved))) :
    ∃ k₀ ∈ t.corrections, k = Entity.retargetCorrection stubType target k₀ := by
  obtain ⟨e, he, hke⟩ := EntityTree.mem_corrections_iff.1 hk
  rcases Tree.mem_values_addChild.1 he with he | he
  · obtain ⟨e₀, he₀, rfl⟩ := EntityTree.mem_values_retarget_iff.1 he
    rw [Entity.corrections_retarget] at hke
    obtain ⟨k₀, hk₀, rfl⟩ := List.mem_map.1 hke
    exact ⟨k₀, EntityTree.mem_corrections_iff.2 ⟨e₀, he₀, hk₀⟩, rfl⟩
  · rw [(sound_of_mem_strangerEntities hr he).2.1] at hke
    cases hke

theorem children_embedded {t n : EntityTree} :
    ((t.retarget stubType target).addChild n).children =
      t.children.map (EntityTree.retarget stubType target) ++ [n] := by
  rw [Tree.children_addChild, EntityTree.children_retarget]

theorem filter_children_retarget (t : EntityTree) (stub : String) :
    (t.children.map (EntityTree.retarget stubType target)).filter (·.value.stubClass = stub) =
      (t.children.filter (·.value.stubClass = stub)).map (EntityTree.retarget stubType target) := by
  rw [List.filter_map]
  congr 1
  refine List.filter_congr fun n _ => ?_
  rw [Function.comp_apply, EntityTree.value_retarget, Entity.stubClass_retarget]

namespace Embedding

/-- A pending stranger's type is where the stranger says wherever it was moved. -/
theorem resolvedType_of_pending (h : g.Embedding ((stubType, target) :: pending) t)
    (hc : g.classes.find? stubType = some c) {k : OwnershipCorrection} (hk : k ∈ t.corrections)
    (hs : k.stubType = stubType) : k.descriptor.resolvedType = some target := by
  subst hs
  rcases h.moved k hk with ⟨target', hmem, hresolved⟩ | hnone | hplace
  · rcases List.mem_cons.1 hmem with heq | hmem
    · cases heq
      exact hresolved
    · have hkeys := (List.nodup_cons.1 h.keys).1
      exact absurd (List.mem_map_of_mem (f := Prod.fst) hmem) hkeys
  · rw [hc] at hnone
    cases hnone
  · obtain ⟨n, hn, hstub, -⟩ := hplace.exists_mem
    exact absurd hstub (h.absent _ List.mem_cons_self n hn)

theorem retarget_eq_self (h : g.Embedding ((stubType, target) :: pending) t)
    (hc : g.classes.find? stubType = some c) : t.retarget stubType target = t :=
  Tree.map_eq_self fun e he => Entity.retarget_eq_self (h.sound e he).agrees fun _ hk hs =>
    h.resolvedType_of_pending hc (EntityTree.mem_corrections_iff.2 ⟨e, he, hk⟩) hs

/-- What has its place keeps it when another type is embedded. -/
theorem hasPlaceOf_embedded {n : EntityTree} {k : OwnershipCorrection}
    (hn : n.value.stubClass = stubType) (hs : k.stubType ≠ stubType) (h : t.HasPlaceOf k) :
    EntityTree.HasPlaceOf ((t.retarget stubType target).addChild n) k := by
  obtain ⟨m, hm, hresolved, hconstructors⟩ := h
  refine ⟨EntityTree.retarget stubType target m, ?_, ?_, ?_⟩
  · have hother : [n].filter (·.value.stubClass = k.stubType) = [] := by
      simp [hn, Ne.symm hs]
    rw [children_embedded, List.filter_append, filter_children_retarget, hm, hother]
    rfl
  · rw [hresolved, EntityTree.value_retarget, Entity.targetName_retarget]
  · rw [EntityTree.value_retarget, Entity.constructors_retarget]
    exact hconstructors

/-- What is embedded has its place then. -/
theorem hasPlaceOf_new {n : EntityTree} {k : OwnershipCorrection}
    (habsent : ∀ n ∈ t.children, n.value.stubClass ≠ stubType) (hs : k.stubType = stubType)
    (hn : n.value.stubClass = stubType) (htarget : n.value.targetName = target)
    (hconstructors : n.value.constructors.contains stubType = true) :
    EntityTree.HasPlaceOf ((t.retarget stubType target).addChild n)
      (Entity.retargetCorrection stubType target k) := by
  refine ⟨n, ?_, ?_, ?_⟩
  · have hnone : t.children.filter (·.value.stubClass = stubType) = [] := by
      simpa [List.filter_eq_nil_iff] using habsent
    rw [Entity.stubType_retargetCorrection, hs, children_embedded, List.filter_append,
      filter_children_retarget, hnone]
    simp [hn]
  · rw [Entity.resolvedType_retargetCorrection hs, htarget]
  · rw [Entity.stubType_retargetCorrection, hs]
    exact hconstructors

/-- The names below a retargeted tree with a stranger differ if the stranger's name is free. -/
theorem names_embedded {n : EntityTree}
    (hnames : ∀ u ∈ t.subtrees, (u.children.map (·.value.entityName)).Nodup)
    (hn : ∀ u ∈ n.subtrees, (u.children.map (·.value.entityName)).Nodup)
    (hfree : n.value.entityName ∉ t.nestedNames) {u : EntityTree}
    (hu : u ∈ ((t.retarget stubType target).addChild n).subtrees) :
    (u.children.map (·.value.entityName)).Nodup := by
  have hkeep : ∀ ts : List EntityTree, (ts.map (EntityTree.retarget stubType target)).map
      (·.value.entityName) = ts.map (·.value.entityName) := fun ts => by
    rw [List.map_map]
    refine List.map_congr_left fun m _ => ?_
    rw [Function.comp_apply, EntityTree.value_retarget, Entity.entityName_retarget]
  rcases Tree.mem_subtrees_addChild.1 hu with rfl | ⟨m, hm, hu⟩ | hu
  · rw [children_embedded, List.map_append, hkeep, List.map_singleton]
    refine List.nodup_append.2 ⟨hnames t (Tree.mem_subtrees_iff.2 (.inl rfl)),
      List.nodup_singleton _, ?_⟩
    rintro a ha b hb rfl
    rw [List.mem_singleton] at hb
    exact hfree (hb ▸ ha)
  · rw [EntityTree.children_retarget] at hm
    obtain ⟨w, hw, rfl⟩ := List.mem_map.1 hm
    rw [EntityTree.retarget, Tree.subtrees_map] at hu
    obtain ⟨v, hv, rfl⟩ := List.mem_map.1 hu
    rw [Tree.children_map]
    exact (hkeep v.children).symm ▸ hnames v (Tree.mem_subtrees_iff.2 (.inr ⟨w, hw, hv⟩))
  · exact hn u hu

/-- Embedding the next stranger keeps the invariant for the others. -/
theorem step (hg : g.Accepted) (h : g.Embedding ((stubType, target) :: pending) t)
    (hstep : (g.embedStranger t stubType target).result = .ok t') : g.Embedding pending t' := by
  have hkeys := List.nodup_cons.1 h.keys
  have hlater : ∀ {p}, p ∈ pending → p ∈ (stubType, target) :: pending :=
    List.mem_cons_of_mem _
  rcases embedStranger_cases hstep with
    ⟨hc, rfl⟩ | ⟨c, resolved, t₀, name, target', hc, hr, hfree, ht₀, rfl⟩
  · refine ⟨h.names, h.sound, fun k hk => ?_, hkeys.2, fun p hp => h.dotted p (hlater hp),
      fun p hp => h.absent p (hlater hp)⟩
    rcases h.moved k hk with ⟨target', hmem, hresolved⟩ | hplace
    · rcases List.mem_cons.1 hmem with heq | hmem
      · cases heq
        exact .inr (.inl hc)
      · exact .inl ⟨target', hmem, hresolved⟩
    · exact .inr hplace
  · have heq : t₀ = t.retarget stubType target' := by
      rcases ht₀ with ⟨rfl, rfl⟩ | rfl
      · exact (h.retarget_eq_self hc).symm
      · rfl
    subst heq
    obtain ⟨hmem, hname⟩ :=
      (ClassSet.find?_eq_some_iff hg.wellFormed (h.dotted _ List.mem_cons_self)).1 hc
    have hstub :
        (g.strangerEntities stubType name target' resolved).value.stubClass = stubType := by
      rw [stubClass_strangerEntities, value_cls_of_resolveTree hr, hname]
    refine ⟨fun u hu => ?_, fun e he => ?_, fun k hk => ?_, hkeys.2,
      fun p hp => h.dotted p (hlater hp), fun p hp n hn => ?_⟩
    · exact names_embedded h.names (fun v hv => names_strangerEntities hg hmem hr hv) hfree hu
    · rcases Tree.mem_values_addChild.1 he with he | he
      · obtain ⟨e₀, he₀, rfl⟩ := EntityTree.mem_values_retarget_iff.1 he
        exact (h.sound e₀ he₀).retarget
      · exact (sound_of_mem_strangerEntities hr he).1
    · obtain ⟨k₀, hk₀, rfl⟩ := mem_corrections_embedded hr hk
      by_cases hs : k₀.stubType = stubType
      · exact .inr (.inr (hasPlaceOf_new (h.absent _ List.mem_cons_self) hs hstub rfl
          constructors_strangerEntities))
      · rw [Entity.retargetCorrection_of_ne hs]
        rcases h.moved k₀ hk₀ with ⟨x, hx, hresolved⟩ | hnone | hplace
        · rcases List.mem_cons.1 hx with heq | hx
          · cases heq
            exact absurd rfl hs
          · exact .inl ⟨x, hx, hresolved⟩
        · exact .inr (.inl hnone)
        · exact .inr (.inr (hasPlaceOf_embedded hstub hs hplace))
    · rw [children_embedded, List.mem_append, List.mem_singleton] at hn
      rcases hn with hn | rfl
      · obtain ⟨m, hm, rfl⟩ := List.mem_map.1 hn
        rw [EntityTree.value_retarget, Entity.stubClass_retarget]
        exact h.absent p (hlater hp) m hm
      · rw [hstub]
        intro heq
        have hin : p.1 ∈ pending.map (·.1) := List.mem_map_of_mem hp
        exact hkeys.1 (heq ▸ hin)

theorem hasPlaceOf (h : g.Embedding [] t) {k : OwnershipCorrection} (hk : k ∈ t.corrections)
    (hc : g.classes.find? k.stubType ≠ none) : t.HasPlaceOf k := by
  rcases h.moved k hk with ⟨_, hpending, _⟩ | hnone | hplace
  · cases hpending
  · exact absurd hnone hc
  · exact hplace

/-- Embedding all strangers that are pending leaves none. -/
theorem run (hg : g.Accepted) (h : g.Embedding pending t)
    (hrun : (g.embedStrangers t pending).result = .ok t') : g.Embedding [] t' := by
  induction pending generalizing t with
  | nil =>
    cases hrun
    exact h
  | cons p pending ih =>
    obtain ⟨mid, hmid, hrun⟩ := Diagnosed.result_bind_eq_ok.1 hrun
    exact ih (h.step hg hmid) hrun

end Embedding

/-! ## What embedding keeps -/

section
variable {α : Type} {f : Entity → α}

theorem keep_of_embedStranger (hf : ∀ e s x, f (e.retarget s x) = f e)
    (h : (g.embedStranger t stubType target).result = .ok t') :
    f t'.value = f t.value ∧ ∀ e ∈ t.values, ∃ e' ∈ t'.values, f e' = f e := by
  rcases embedStranger_cases h with
    ⟨-, rfl⟩ | ⟨c, resolved, t₀, name, target', -, -, -, ⟨rfl, rfl⟩ | rfl, rfl⟩
  · exact ⟨rfl, fun e he => ⟨e, he, rfl⟩⟩
  · exact ⟨rfl, fun e he => ⟨e, Tree.mem_values_addChild.2 (.inl he), rfl⟩⟩
  · refine ⟨?_, fun e he => ⟨e.retarget stubType target', Tree.mem_values_addChild.2 (.inl ?_),
      hf _ _ _⟩⟩
    · rw [Tree.value_addChild, EntityTree.value_retarget, hf]
    · exact EntityTree.mem_values_retarget_iff.2 ⟨e, he, rfl⟩

/-- What no retargeting changes in an entity is kept when strangers are embedded. -/
theorem keep_of_embedStrangers (hf : ∀ e s x, f (e.retarget s x) = f e)
    (h : (g.embedStrangers t pending).result = .ok t') :
    f t'.value = f t.value ∧ ∀ e ∈ t.values, ∃ e' ∈ t'.values, f e' = f e := by
  induction pending generalizing t with
  | nil =>
    cases h
    exact ⟨rfl, fun e he => ⟨e, he, rfl⟩⟩
  | cons p pending ih =>
    obtain ⟨mid, hmid, h⟩ := Diagnosed.result_bind_eq_ok.1 h
    obtain ⟨hroot, hvalues⟩ := keep_of_embedStranger hf hmid
    obtain ⟨hroot', hvalues'⟩ := ih h
    refine ⟨hroot'.trans hroot, fun e he => ?_⟩
    obtain ⟨e₁, he₁, h₁⟩ := hvalues e he
    obtain ⟨e₂, he₂, h₂⟩ := hvalues' e₁ he₁
    exact ⟨e₂, he₂, h₂.trans h₁⟩

/-- The planned entities keep what no retargeting changes in the own entities of a tree. -/
theorem keep_of_entityTree (hf : ∀ e s x, f (e.retarget s x) = f e) {t : Tree ResolvedClass}
    {planned : EntityTree} (h : (g.entityTree t).result = .ok planned) :
    f planned.value = f (g.ownEntities (g.classes.outermost t.value.cls) t).value ∧
      ∀ e ∈ (g.ownEntities (g.classes.outermost t.value.cls) t).values,
        ∃ e' ∈ planned.values, f e' = f e := by
  unfold entityTree at h
  dsimp only at h
  split at h
  · cases h
    exact ⟨rfl, fun e he => ⟨e, he, rfl⟩⟩
  · exact keep_of_embedStrangers hf h

end

section
variable {P : Entity → Prop}

/-- What retargeting keeps and the entities of every stranger have, embedding keeps. -/
theorem forall_of_embedStrangers (hretarget : ∀ e s x, P e → P (e.retarget s x))
    (hstranger : ∀ stub name x c resolved, g.classes.find? stub = some c →
      (g.resolveTree c).result = .ok resolved →
      ∀ e ∈ (g.strangerEntities stub name x resolved).values, P e)
    (ht : ∀ e ∈ t.values, P e) (h : (g.embedStrangers t pending).result = .ok t') :
    ∀ e ∈ t'.values, P e := by
  induction pending generalizing t with
  | nil =>
    cases h
    exact ht
  | cons p pending ih =>
    obtain ⟨mid, hmid, h⟩ := Diagnosed.result_bind_eq_ok.1 h
    refine ih (fun e he => ?_) h
    rcases embedStranger_cases hmid with
      ⟨-, rfl⟩ | ⟨c, resolved, t₀, name, target', hc, hr, -, ht₀, rfl⟩
    · exact ht e he
    · rcases Tree.mem_values_addChild.1 he with he | he
      · rcases ht₀ with ⟨rfl, -⟩ | rfl
        · exact ht e he
        · obtain ⟨e₀, he₀, rfl⟩ := EntityTree.mem_values_retarget_iff.1 he
          exact hretarget _ _ _ (ht e₀ he₀)
      · exact hstranger _ _ _ c resolved hc hr e he

/-- What retargeting keeps all planned entities have, if the own entities and those of every
stranger have it. -/
theorem forall_of_entityTree (hretarget : ∀ e s x, P e → P (e.retarget s x))
    (hstranger : ∀ stub name x c resolved, g.classes.find? stub = some c →
      (g.resolveTree c).result = .ok resolved →
      ∀ e ∈ (g.strangerEntities stub name x resolved).values, P e)
    {t : Tree ResolvedClass} {planned : EntityTree}
    (hown : ∀ e ∈ (g.ownEntities (g.classes.outermost t.value.cls) t).values, P e)
    (h : (g.entityTree t).result = .ok planned) : ∀ e ∈ planned.values, P e := by
  unfold entityTree at h
  dsimp only at h
  split at h
  · cases h
    exact hown
  · exact forall_of_embedStrangers hretarget hstranger hown h

end

theorem stubClass_of_entityTree {t : Tree ResolvedClass} {planned : EntityTree}
    (h : (g.entityTree t).result = .ok planned) :
    planned.value.stubClass = t.value.cls.qualifiedName := by
  rw [(keep_of_entityTree (f := (·.stubClass)) (fun _ _ _ => rfl) h).1, ownEntities,
    Tree.value_mapRoot, Tree.value_map]
  rfl

/-! ## Where entities come from -/

/-- Embedding a stranger adds the entities of its class and the classes in it, and no others. -/
theorem origin_of_embedStranger (h : (g.embedStranger t stubType target).result = .ok t') :
    (∀ e ∈ t'.values, (∃ e₀ ∈ t.values, e.stubClass = e₀.stubClass) ∨
      ∃ c resolved, g.classes.find? stubType = some c ∧ (g.resolveTree c).result = .ok resolved ∧
        ∃ rc ∈ resolved.values, e.stubClass = rc.cls.qualifiedName) ∧
      ∀ c, g.classes.find? stubType = some c → ∃ e ∈ t'.values, e.stubClass = c.qualifiedName := by
  rcases embedStranger_cases h with
    ⟨hc, rfl⟩ | ⟨c, resolved, t₀, name, target', hc, hr, -, ht₀, rfl⟩
  · refine ⟨fun e he => .inl ⟨e, he, rfl⟩, fun c hc' => ?_⟩
    rw [hc] at hc'
    cases hc'
  · refine ⟨fun e he => ?_, fun c' hc' => ?_⟩
    · rcases Tree.mem_values_addChild.1 he with he | he
      · rcases ht₀ with ⟨rfl, rfl⟩ | rfl
        · exact .inl ⟨e, he, rfl⟩
        · obtain ⟨e₀, he₀, rfl⟩ := EntityTree.mem_values_retarget_iff.1 he
          exact .inl ⟨e₀, he₀, rfl⟩
      · obtain ⟨-, -, hclass⟩ := sound_of_mem_strangerEntities hr he
        exact .inr ⟨c, resolved, hc, hr, hclass⟩
    · rw [hc] at hc'
      cases hc'
      refine ⟨_, Tree.mem_values_addChild.2 (.inr (Tree.value_mem_values _)), ?_⟩
      rw [stubClass_strangerEntities, value_cls_of_resolveTree hr]

/-- Embedding strangers adds the entities of their classes and the classes in these, and no
others. -/
theorem origin_of_embedStrangers (h : (g.embedStrangers t pending).result = .ok t') :
    (∀ e ∈ t'.values, (∃ e₀ ∈ t.values, e.stubClass = e₀.stubClass) ∨
      ∃ p ∈ pending, ∃ c resolved, g.classes.find? p.1 = some c ∧
        (g.resolveTree c).result = .ok resolved ∧
        ∃ rc ∈ resolved.values, e.stubClass = rc.cls.qualifiedName) ∧
      ∀ p ∈ pending, ∀ c, g.classes.find? p.1 = some c →
        ∃ e ∈ t'.values, e.stubClass = c.qualifiedName := by
  induction pending generalizing t with
  | nil =>
    cases h
    exact ⟨fun e he => .inl ⟨e, he, rfl⟩, nofun⟩
  | cons q pending ih =>
    obtain ⟨mid, hmid, hrest⟩ := Diagnosed.result_bind_eq_ok.1 h
    obtain ⟨hfrom, hnew⟩ := origin_of_embedStranger hmid
    obtain ⟨hfrom', hnew'⟩ := ih hrest
    refine ⟨fun e he => ?_, List.forall_mem_cons.2 ⟨fun c hc => ?_, hnew'⟩⟩
    · rcases hfrom' e he with ⟨e₁, he₁, h₁⟩ | ⟨p, hp, hclass⟩
      · rcases hfrom e₁ he₁ with ⟨e₀, he₀, h₀⟩ | ⟨c, resolved, hc, hr, rc, hrc, hname⟩
        · exact .inl ⟨e₀, he₀, h₁.trans h₀⟩
        · exact .inr ⟨q, List.mem_cons_self, c, resolved, hc, hr, rc, hrc, h₁.trans hname⟩
      · exact .inr ⟨p, List.mem_cons_of_mem _ hp, hclass⟩
    · obtain ⟨e, he, hname⟩ := hnew c hc
      obtain ⟨-, hkeep⟩ := keep_of_embedStrangers (f := (·.stubClass)) (fun _ _ _ => rfl) hrest
      obtain ⟨e', he', hname'⟩ := hkeep e he
      exact ⟨e', he', hname'.trans hname⟩

end ClassGraph
end EntityGen
