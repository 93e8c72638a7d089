import EntityGen.Plan.Maps
import EntityGen.Proofs.Plan.Basic

/-! # Collected field maps

The two passes of the planner come to what planning from resolved trees comes to. The worklist
visits the classes of a tree and leaves their maps, with the same warnings (`treeMaps_eq`), so every
class that a recursion walks over has its map (`Covers`), and the recursions build the entities and
field interfaces of the resolved tree (`run_buildEntity`, `buildFields_eq`). Hence
`planFromMaps_eq`. -/

namespace EntityGen

/-! ## What collecting leaves -/

mutual

/-- The field maps of a resolved tree in the order in which collecting leaves them: the last
first. -/
def FieldMaps.ofTree : Tree ResolvedClass → FieldMaps
  | .node rc ts => ofTrees ts ++ [(rc.cls.id, rc.fields)]

def FieldMaps.ofTrees : List (Tree ResolvedClass) → FieldMaps
  | [] => []
  | t :: ts => ofTree t ++ ofTrees ts

end

theorem FieldMaps.ofTrees_eq_flatMap (ts : List (Tree ResolvedClass)) :
    ofTrees ts = ts.flatMap ofTree := by
  induction ts with
  | nil => rfl
  | cons t ts ih => simp [ofTrees, ih]

theorem FieldMaps.mem_ofTree_iff {t : Tree ResolvedClass} {entry : Nat × FieldMap} :
    entry ∈ ofTree t ↔ ∃ rc ∈ t.values, (rc.cls.id, rc.fields) = entry := by
  induction t using Tree.induction with
  | h rc ts ih =>
    rw [ofTree, ofTrees_eq_flatMap, Tree.values_node]
    constructor
    · intro h
      rcases List.mem_append.1 h with h | h
      · obtain ⟨t, ht, h⟩ := List.mem_flatMap.1 h
        obtain ⟨rc', hrc', rfl⟩ := (ih t ht).1 h
        exact ⟨rc', List.mem_cons_of_mem _ (List.mem_flatMap.2 ⟨t, ht, hrc'⟩), rfl⟩
      · exact ⟨rc, List.mem_cons_self, (List.mem_singleton.1 h).symm⟩
    · rintro ⟨rc', hrc', rfl⟩
      rcases List.mem_cons.1 hrc' with rfl | h
      · simp
      · obtain ⟨t, ht, h⟩ := List.mem_flatMap.1 h
        exact List.mem_append_left _ (List.mem_flatMap.2 ⟨t, ht, (ih t ht).2 ⟨rc', h, rfl⟩⟩)

/-- The maps have each class of a resolved tree, with its fields. -/
def FieldMaps.Covers (maps : FieldMaps) (t : Tree ResolvedClass) : Prop :=
  ∀ rc ∈ t.values, maps.of rc.cls = .ok rc.fields

theorem FieldMaps.Covers.child {maps : FieldMaps} {rc : ResolvedClass}
    {ts : List (Tree ResolvedClass)} (h : maps.Covers (.node rc ts)) :
    ∀ t ∈ ts, maps.Covers t := by
  intro t ht rc' hrc'
  exact h rc' (Tree.mem_values_iff.2 (.inr ⟨t, ht, hrc'⟩))

namespace ClassGraph

variable {g : ClassGraph} {c : StubClass} {n steps : Nat} {pending : List StubClass}
  {maps : FieldMaps} {t : Tree ResolvedClass}

/-- Where collecting runs along a tree. -/
def CollectsTree (g : ClassGraph) (n : Nat) (c : StubClass) : Prop :=
  ∀ steps pending maps, (g.treeWithin n c).size ≤ steps →
    g.collectMaps steps (c :: pending) maps =
      (g.treeWithin n c).mapLastFirst g.resolveClass >>= fun t =>
        g.collectMaps (steps - (g.treeWithin n c).size) pending (FieldMaps.ofTree t ++ maps)

/-- The classes on top of the stack, the last of the list on top, are collected one after the
other. -/
theorem collectMaps_reverse {cs : List StubClass} (h : ∀ c ∈ cs, CollectsTree g n c) :
    ∀ steps pending maps, (cs.flatMap fun c => (g.treeWithin n c).values).length ≤ steps →
      g.collectMaps steps (cs.reverse ++ pending) maps =
        Tree.mapLastFirstAll g.resolveClass (cs.map (g.treeWithin n)) >>= fun ts =>
          g.collectMaps (steps - (cs.flatMap fun c => (g.treeWithin n c).values).length) pending
            (FieldMaps.ofTrees ts ++ maps) := by
  induction cs with
  | nil =>
    intro steps pending maps _
    rw [List.map_nil, Tree.mapLastFirstAll, pure_bind]
    simp [FieldMaps.ofTrees]
  | cons c cs ih =>
    intro steps pending maps hsteps
    rw [List.flatMap_cons, List.length_append, Tree.length_values] at hsteps
    -- the classes after `c` lie above it
    have hrest := ih (fun c' hc' => h c' (List.mem_cons_of_mem c hc')) steps (c :: pending) maps
      (by omega)
    rw [List.reverse_cons, List.append_assoc, List.singleton_append, hrest, List.map_cons,
      List.flatMap_cons, List.length_append, Tree.length_values, Tree.mapLastFirstAll]
    simp only [bind_assoc, pure_bind]
    refine Diagnosed.bind_congr_ok fun ts _ => ?_
    rw [h c List.mem_cons_self _ _ _ (by omega)]
    refine Diagnosed.bind_congr_ok fun t _ => ?_
    rw [FieldMaps.ofTrees, List.append_assoc, Nat.sub_sub, Nat.add_comm]

/-- Collecting visits a tree as resolving it does. -/
theorem collectsTree (hg : g.Accepted) (hc : c ∈ g.classes.classes)
    (hn : g.classes.classes.length ≤ n + c.id) : CollectsTree g n c := by
  induction n generalizing c with
  | zero =>
    have hlt := ClassSet.id_lt_length hg.wellFormed hc
    omega
  | succ n ih =>
    intro steps pending maps hsteps
    have hchildren : ∀ d ∈ g.children c, CollectsTree g n d := by
      intro d hd
      obtain ⟨hmem, hlen⟩ := lt_of_mem_children hg hc hn hd
      exact ih hmem hlen
    rw [treeWithin, Tree.size_node, List.flatMap_map] at hsteps ⊢
    obtain ⟨steps, rfl⟩ : ∃ k, steps = k + 1 := ⟨steps - 1, by omega⟩
    rw [collectMaps, Tree.mapLastFirst, resolveClass]
    simp only [bind_assoc, pure_bind]
    refine Diagnosed.bind_congr_ok fun fields _ => ?_
    rw [collectMaps_reverse hchildren steps pending _ (by omega)]
    refine Diagnosed.bind_congr_ok fun ts _ => ?_
    rw [FieldMaps.ofTree, List.append_assoc, Nat.add_sub_add_right]
    rfl

/-- A tree has no more classes than the set. -/
theorem size_treeOf_le (hg : g.Accepted) (hc : c ∈ g.classes.classes) :
    (g.treeOf c).size ≤ g.classes.classes.length := by
  rw [← Tree.length_values]
  refine (values_treeWithin_nodup hg hc).length_le_of_subset ?_
  intro d hd
  exact (of_mem_treeWithin hg hc hd).1

/-- The maps collected from a class are those of its resolved tree. -/
theorem treeMaps_eq (hg : g.Accepted) (hc : c ∈ g.classes.classes) :
    g.treeMaps c = FieldMaps.ofTree <$> g.resolveTree c := by
  rw [treeMaps, collectsTree hg hc (Nat.le_add_right _ _) _ _ _ (size_treeOf_le hg hc),
    map_eq_pure_bind]
  refine Diagnosed.bind_congr_ok fun t _ => ?_
  rw [List.append_nil]
  cases g.classes.classes.length - (g.treeWithin g.classes.classes.length c).size <;> rfl

/-! ## Looking up -/

/-- The collected maps have every class of the tree. -/
theorem covers_ofTree (hg : g.Accepted) (hc : c ∈ g.classes.classes)
    (h : (g.resolveTree c).result = .ok t) : (FieldMaps.ofTree t).Covers t := by
  have hmem : ∀ rc ∈ t.values, rc.cls ∈ g.classes.classes := by
    intro rc hrc
    rcases mem_classes_of_resolveTree hg hc h hrc with heq | ⟨hrc, -, -⟩
    · exact heq ▸ hc
    · exact hrc
  intro rc hrc
  unfold FieldMaps.of
  cases hl : (FieldMaps.ofTree t).lookup rc.cls.id with
  | none =>
    have hentry := List.lookup_eq_none_iff.1 hl _ (FieldMaps.mem_ofTree_iff.2 ⟨rc, hrc, rfl⟩)
    simp at hentry
  | some fields =>
    obtain ⟨before, after, hsplit, -⟩ := List.lookup_eq_some_iff.1 hl
    have hentry : (rc.cls.id, fields) ∈ FieldMaps.ofTree t := by
      rw [hsplit]
      exact List.mem_append_right _ List.mem_cons_self
    obtain ⟨rc', hrc', heq⟩ := FieldMaps.mem_ofTree_iff.1 hentry
    obtain ⟨hid, rfl⟩ := Prod.mk.inj heq
    -- one id, one class, one field map
    have hcls := ClassSet.eq_of_id_eq hg.wellFormed (hmem rc' hrc') (hmem rc hrc) hid
    have hfields := (resolveTree_ok h).2
    have hsame := hfields rc' hrc'
    rw [hcls, hfields rc hrc] at hsame
    exact hsame.symm

/-! ## Building -/

section
variable {α β ε σ : Type} {as : List α} {bs : List β}

theorem mapM_ok_of_forall₂ {f : α → Except ε β}
    (h : List.Forall₂ (fun a b => f a = .ok b) as bs) : as.mapM f = .ok bs := by
  induction h with
  | nil => rfl
  | cons hab _ ih =>
    rw [List.mapM_cons, hab, ih]
    rfl

/-- Steps that give their results whatever the state is do so one after the other. -/
theorem run_mapM_of_forall₂ {f : α → StateT σ (Except ε) β} {next : β → σ → σ}
    (h : List.Forall₂ (fun a b => ∀ s, (f a).run s = .ok (b, next b s)) as bs) :
    ∀ s, (as.mapM f).run s = .ok (bs, bs.foldl (fun s b => next b s) s) := by
  induction h with
  | nil => exact fun _ => rfl
  | @cons a b as bs hab _ ih =>
    intro s
    rw [List.mapM_cons, StateT.run_bind, hab s]
    show ((as.mapM f >>= fun bs => pure (b :: bs)) : StateT σ (Except ε) _).run (next b s) = _
    rw [StateT.run_bind, ih]
    rfl

end

/-- The trees below a node are those of the children of its class. -/
theorem forall₂_children {rc : ResolvedClass} {ts : List (Tree ResolvedClass)}
    (hcls : (Tree.node rc ts).map (·.cls) = g.treeWithin (n + 1) c) :
    rc.cls = c ∧
      List.Forall₂ (fun d t => t ∈ ts ∧ Tree.map (·.cls) t = g.treeWithin n d)
        (g.children c) ts := by
  rw [treeWithin, Tree.map_node, Tree.node.injEq] at hcls
  obtain ⟨hvalue, hts⟩ := hcls
  rw [← List.forall₂_eq_eq_eq, List.forall₂_map_left_iff, List.forall₂_map_right_iff] at hts
  exact ⟨hvalue, ((List.forall₂_and_left _ _).2 ⟨fun _ ht => ht, hts⟩).flip⟩

theorem buildFieldsNode_eq {rc : ResolvedClass} {ts : List (Tree ResolvedClass)} (embedded : Bool)
    (hfields : maps.of rc.cls = .ok rc.fields) :
    g.buildFieldsNode maps embedded rc.cls (.ok (ts.map (g.fieldsTree true))) =
      .ok (g.fieldsTree embedded (.node rc ts)) := by
  have hnested : ts.map (g.fieldsTree true) = ts.map (Tree.mapWithChildren g.fieldsInterface) := by
    refine List.map_congr_left fun t _ => ?_
    cases t
    rfl
  rw [buildFieldsNode, hfields, fieldsTree, Tree.mapWithChildren_node, ← hnested]
  show Except.ok _ = Except.ok _
  simp [Tree.mapRoot, fieldsTree, fieldsInterface, Function.comp_def]

/-- Where the maps cover the tree of a class, the field interfaces are those of the tree. -/
theorem buildFields_eq (embedded : Bool) (hcls : t.map (·.cls) = g.treeWithin n c)
    (hmaps : maps.Covers t) : g.buildFields maps n embedded c = .ok (g.fieldsTree embedded t) := by
  induction n generalizing c t embedded with
  | zero =>
    obtain ⟨rc, ts⟩ := t
    rw [treeWithin, Tree.map_node, Tree.node.injEq, List.map_eq_nil_iff] at hcls
    obtain ⟨rfl, rfl⟩ := hcls
    change g.buildFieldsNode maps embedded rc.cls (.ok (List.map (g.fieldsTree true) [])) = _
    exact buildFieldsNode_eq embedded (hmaps rc (Tree.value_mem_values _))
  | succ n ih =>
    obtain ⟨rc, ts⟩ := t
    obtain ⟨rfl, hts⟩ := forall₂_children hcls
    have hnested : (g.children rc.cls).mapM (g.buildFields maps n true) =
        .ok (ts.map (g.fieldsTree true)) := by
      refine mapM_ok_of_forall₂ (List.forall₂_map_right_iff.2 (hts.imp fun d t ht => ?_))
      exact ih true ht.2 (hmaps.child t ht.1)
    rw [buildFields, hnested]
    exact buildFieldsNode_eq embedded (hmaps rc (Tree.value_mem_values _))

/-- The entities of a resolved tree, the first of them embedded or not. -/
def entitiesOf (g : ClassGraph) (correct : Bool) (outermost : StubClass) (embedded : Bool)
    (t : Tree ResolvedClass) : EntityTree :=
  (t.map fun rc => g.entity (g.correctionsIf correct outermost rc) rc).mapRoot fun e =>
    { e with isEmbedded := embedded }

theorem addStrangers_append (first second : List OwnershipCorrection) (types : NameMap String) :
    addStrangers (first ++ second) types = addStrangers second (addStrangers first types) := by
  simp [addStrangers, List.foldl_append]

theorem foldl_addStrangers (ts : List EntityTree) (types : NameMap String) :
    ts.foldl (fun types t => addStrangers t.corrections types) types =
      addStrangers (ts.flatMap EntityTree.corrections) types := by
  induction ts generalizing types with
  | nil => rfl
  | cons t ts ih => simp only [List.foldl_cons, List.flatMap_cons, addStrangers_append, ih]

theorem entitiesOf_node (correct : Bool) (outermost : StubClass) (embedded : Bool)
    (rc : ResolvedClass) (ts : List (Tree ResolvedClass)) :
    g.entitiesOf correct outermost embedded (.node rc ts) =
      .node { g.entity (g.correctionsIf correct outermost rc) rc with isEmbedded := embedded }
        (ts.map (g.entitiesOf correct outermost true)) := by
  simp only [entitiesOf, Tree.map_node, Tree.mapRoot, Tree.value_node, Tree.children_node]
  congr 1
  refine List.map_congr_left fun t _ => ?_
  cases t
  rw [entitiesOf, Tree.map_node]
  rfl

theorem run_buildEntityNode {rc : ResolvedClass} {ts : List (Tree ResolvedClass)}
    {correct : Bool} {outermost : StubClass} {nested : EntityBuilder (List EntityTree)}
    (embedded : Bool) (hfields : maps.of rc.cls = .ok rc.fields)
    (hnested : ∀ types, nested.run types =
      .ok (ts.map (g.entitiesOf correct outermost true), addStrangers
        ((ts.map (g.entitiesOf correct outermost true)).flatMap EntityTree.corrections) types))
    (types : NameMap String) :
    (g.buildEntityNode maps outermost correct embedded rc.cls nested).run types =
      .ok (g.entitiesOf correct outermost embedded (.node rc ts), addStrangers
        (g.entitiesOf correct outermost embedded (.node rc ts)).corrections types) := by
  have hcorrections : (g.entitiesOf correct outermost embedded (.node rc ts)).corrections =
      g.correctionsIf correct outermost rc ++
        (ts.map (g.entitiesOf correct outermost true)).flatMap EntityTree.corrections := by
    rw [entitiesOf_node, EntityTree.corrections, Tree.values_node, List.flatMap_cons,
      List.flatMap_assoc]
    rfl
  rw [hcorrections, addStrangers_append, buildEntityNode, hfields, entitiesOf_node]
  show ((do
    let nested ← nested
    return Tree.node _ nested) : EntityBuilder EntityTree).run
      (addStrangers (g.correctionsIf correct outermost rc) types) = _
  rw [StateT.run_bind, hnested]
  rfl

/-- Where the maps cover the tree of a class, the entities are those of the tree, and the types of
its corrections are added to those known. -/
theorem run_buildEntity (correct embedded : Bool) (outermost : StubClass)
    (hcls : t.map (·.cls) = g.treeWithin n c) (hmaps : maps.Covers t) (types : NameMap String) :
    (g.buildEntity maps outermost correct n embedded c).run types =
      .ok (g.entitiesOf correct outermost embedded t,
        addStrangers (g.entitiesOf correct outermost embedded t).corrections types) := by
  induction n generalizing c t embedded types with
  | zero =>
    obtain ⟨rc, ts⟩ := t
    rw [treeWithin, Tree.map_node, Tree.node.injEq, List.map_eq_nil_iff] at hcls
    obtain ⟨rfl, rfl⟩ := hcls
    change (g.buildEntityNode maps outermost correct embedded rc.cls (pure [])).run types = _
    refine run_buildEntityNode embedded (hmaps rc (Tree.value_mem_values _)) (fun types => ?_) types
    rfl
  | succ n ih =>
    obtain ⟨rc, ts⟩ := t
    obtain ⟨rfl, hts⟩ := forall₂_children hcls
    refine run_buildEntityNode embedded (hmaps rc (Tree.value_mem_values _)) (fun types => ?_) types
    rw [← foldl_addStrangers]
    apply run_mapM_of_forall₂
    refine List.forall₂_map_right_iff.2 (hts.imp fun d t ht => ?_)
    exact ih true ht.2 (hmaps.child t ht.1)

/-! ## Contexts and plans -/

theorem ownEntities_eq (h : t.value.cls = c) (outermost : StubClass) :
    g.entitiesOf true outermost c.isNested t = g.ownEntities outermost t := by
  subst h
  rfl

theorem strangerEntities_eq (outermost : StubClass) (t : Tree ResolvedClass)
    (stubType entityName targetName : String) :
    ((g.entitiesOf false outermost true t).mapRoot fun e =>
      { e with entityName, targetName, constructors := e.constructors.add stubType }) =
      g.strangerEntities stubType entityName targetName t := by
  cases t
  rw [entitiesOf, strangerEntities, Tree.map_node, Tree.map_node]
  rfl

theorem embedStrangerFromMaps_eq (hg : g.Accepted) (outermost : StubClass) (t : EntityTree)
    (stubType target : String) :
    g.embedStrangerFromMaps outermost t stubType target = g.embedStranger t stubType target := by
  unfold embedStrangerFromMaps embedStranger
  cases hfind : g.classes.find? stubType with
  | none => rfl
  | some c =>
    have hc : c ∈ g.classes.classes := ClassSet.mem_of_find? hfind
    dsimp only
    rw [treeMaps_eq hg hc, Diagnosed.muted_map, bind_map_left]
    refine Diagnosed.bind_congr_ok fun resolved hresolved => ?_
    rw [Diagnosed.result_muted] at hresolved
    rw [run_buildEntity false true outermost (resolveTree_ok hresolved).1
      (covers_ofTree hg hc hresolved)]
    exact congrArg (fun e => pure (Tree.addChild _ e)) (strangerEntities_eq outermost resolved ..)

theorem embedStrangersFromMaps_eq (hg : g.Accepted) (outermost : StubClass) (t : EntityTree)
    (strangers : List (String × String)) :
    strangers.foldlM (fun t stranger =>
      g.embedStrangerFromMaps outermost t stranger.1 stranger.2) t =
      g.embedStrangers t strangers := by
  induction strangers generalizing t with
  | nil => rfl
  | cons stranger strangers ih =>
    rw [List.foldlM_cons, embedStrangers, embedStrangerFromMaps_eq hg]
    exact congrArg _ (funext ih)

theorem entityFromMaps_eq (hg : g.Accepted) (hc : c ∈ g.classes.classes)
    (h : (g.resolveTree c).result = .ok t) :
    g.entityFromMaps c (FieldMaps.ofTree t) = g.entityTree t := by
  have hvalue := value_cls_of_resolveTree h
  have hrun := run_buildEntity true c.isNested (g.classes.outermost c) (resolveTree_ok h).1
    (covers_ofTree hg hc h) ∅
  rw [ownEntities_eq hvalue] at hrun
  rw [entityFromMaps, entityTree, hrun, hvalue]
  simp only [embedStrangersFromMaps_eq hg]
  rfl

theorem entityContextFromMaps_eq (hg : g.Accepted) (hc : c ∈ g.classes.classes) :
    g.entityContextFromMaps c = g.entityContext c := by
  rw [entityContextFromMaps, entityContext, treeMaps_eq hg hc, bind_map_left]
  exact Diagnosed.bind_congr_ok fun t ht => entityFromMaps_eq hg hc ht

theorem fieldsContextFromMaps_eq (hg : g.Accepted) (hc : c ∈ g.classes.classes) :
    g.fieldsContextFromMaps c = g.fieldsContext c := by
  rw [fieldsContextFromMaps, fieldsContext, treeMaps_eq hg hc, bind_map_left]
  refine Diagnosed.bind_congr_ok fun t ht => ?_
  rw [buildFields_eq c.isNested (resolveTree_ok ht).1 (covers_ofTree hg hc ht)]
  rfl

theorem planClassFromMaps_eq (hg : g.Accepted) (hc : c ∈ g.classes.classes) :
    g.planClassFromMaps c = g.planClass c := by
  rw [planClassFromMaps, planClass, treeMaps_eq hg hc, bind_map_left]
  refine Diagnosed.bind_congr_ok fun t ht => ?_
  rw [entityFromMaps_eq hg hc ht]
  refine Diagnosed.bind_congr_ok fun entity _ => ?_
  rw [buildFields_eq false (resolveTree_ok ht).1 (covers_ofTree hg hc ht)]
  rfl

/-- Planning from collected maps comes to the plan. -/
theorem planFromMaps_eq (hg : g.Accepted) : g.planFromMaps = g.plan := by
  have hroots : ∀ roots : List StubClass, (∀ root ∈ roots, root ∈ g.classes.classes) →
      roots.mapM g.planClassFromMaps = g.planClasses roots := by
    intro roots hroots
    induction roots with
    | nil => rfl
    | cons root roots ih =>
      rw [List.mapM_cons, planClasses, planClassFromMaps_eq hg (hroots root List.mem_cons_self),
        ih fun other hother => hroots other (List.mem_cons_of_mem root hother)]
  rw [planFromMaps, plan, hroots g.roots fun root hroot => (mem_roots_iff.1 hroot).1]

end ClassGraph
end EntityGen
