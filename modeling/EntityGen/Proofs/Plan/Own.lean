import EntityGen.Proofs.Plan.Basic

/-! # Own entities of a root

Embedding changes the own entities of a root only by giving moved types a new place
(`Entity.retargetAll`) and puts the strangers behind them (`embedStrangers_eq`). Strangers lie
outside the root, own classes inside, so the own entities of a planned tree can be told by their
stubs (`EntityTree.own`), and they are those planned before any stranger was embedded
(`own_planClass`). -/

namespace EntityGen

namespace Entity

variable {α : Type} {moves : List (String × String)} {e : Entity} {name : String}

/-- The entity with several types moved anew, one after the other. -/
def retargetAll (moves : List (String × String)) (e : Entity) : Entity :=
  moves.foldl (fun e move => e.retarget move.1 move.2) e

theorem retargetAll_append (first second : List (String × String)) (e : Entity) :
    e.retargetAll (first ++ second) = (e.retargetAll first).retargetAll second := by
  rw [retargetAll, List.foldl_append]
  rfl

/-- What no single move changes, several moves do not change. -/
theorem keep_retargetAll {f : Entity → α} (hf : ∀ e s x, f (e.retarget s x) = f e) :
    f (e.retargetAll moves) = f e := by
  induction moves generalizing e with
  | nil => rfl
  | cons move moves ih =>
    have hstep : f ((e.retarget move.1 move.2).retargetAll moves) = f (e.retarget move.1 move.2) :=
      ih
    exact hstep.trans (hf e move.1 move.2)

/-- Only the generated type of a field changes when types are moved. -/
theorem get?_retargetAll_kind (moves : List (String × String)) (e : Entity) (name : String) :
    ((e.retargetAll moves).fields.get? name).map (·.kind) =
      (e.fields.get? name).map (·.kind) := by
  refine keep_retargetAll (f := fun e => (e.fields.get? name).map (·.kind)) fun e s x => ?_
  simp only [get?_retarget]
  split
  · rw [Option.map_map]
    rfl
  · rfl

/-- A field that no correction names stays as it is. -/
theorem get?_retargetAll_of_uncorrected (h : ∀ k ∈ e.corrections, k.field ≠ name) :
    (e.retargetAll moves).fields.get? name = e.fields.get? name := by
  induction moves generalizing e with
  | nil => rfl
  | cons move moves ih =>
    have hstep : ∀ k ∈ (e.retarget move.1 move.2).corrections, k.field ≠ name := by
      intro k' hk'
      rw [corrections_retarget] at hk'
      obtain ⟨k, hk, rfl⟩ := List.mem_map.1 hk'
      rw [field_retargetCorrection]
      exact h k hk
    have hfirst : (e.retarget move.1 move.2).fields.get? name = e.fields.get? name := by
      rw [get?_retarget, if_neg]
      rintro ⟨k, hk, -, hfield⟩
      exact h k hk hfield
    exact (ih hstep).trans hfirst

/-- What moving types makes of the fields depends on fields and corrections alone. -/
theorem fields_retargetAll_congr {e' : Entity} (hfields : e.fields = e'.fields)
    (hcorrections : e.corrections = e'.corrections) :
    (e.retargetAll moves).fields = (e'.retargetAll moves).fields := by
  induction moves generalizing e e' with
  | nil => exact hfields
  | cons move moves ih =>
    have hfirst : (e.retarget move.1 move.2).fields = (e'.retarget move.1 move.2).fields := by
      simp only [retarget, hfields, hcorrections]
    have hsecond : (e.retarget move.1 move.2).corrections =
        (e'.retarget move.1 move.2).corrections := by
      rw [corrections_retarget, corrections_retarget, hcorrections]
    exact ih hfirst hsecond

end Entity

theorem EntityTree.map_retargetAll_nil (ts : List EntityTree) :
    ts.map (Tree.map (Entity.retargetAll [])) = ts :=
  (List.map_congr_left fun _ _ => Tree.map_eq_self fun _ _ => rfl).trans (List.map_id ts)

/-- The entities of the root's own classes: without the strangers, whose stubs lie outside the
root's. -/
def EntityTree.own (t : EntityTree) : EntityTree :=
  .node t.value (t.children.filter fun n => Name.isWithin n.value.stubClass t.value.stubClass)

/-- An entity is an own one or one of a stranger. -/
theorem EntityTree.mem_values_iff_own {t : EntityTree} {e : Entity} :
    e ∈ Tree.values t ↔ e ∈ t.own.values ∨
      ∃ n ∈ t.children, Name.isWithin n.value.stubClass t.value.stubClass = false ∧
        e ∈ n.values := by
  rw [Tree.mem_values_iff, own, Tree.mem_values_iff, Tree.value_node, Tree.children_node]
  simp only [List.mem_filter]
  constructor
  · rintro (rfl | ⟨n, hn, he⟩)
    · exact .inl (.inl rfl)
    · cases hin : Name.isWithin n.value.stubClass t.value.stubClass with
      | true => exact .inl (.inr ⟨n, ⟨hn, hin⟩, he⟩)
      | false => exact .inr ⟨n, hn, hin, he⟩
  · rintro ((rfl | ⟨n, ⟨hn, -⟩, he⟩) | ⟨n, hn, -, he⟩)
    · exact .inl rfl
    · exact .inr ⟨n, hn, he⟩
    · exact .inr ⟨n, hn, he⟩

namespace ClassGraph

variable {g : ClassGraph} {root c : StubClass} {p : PlannedClass} {t t' : EntityTree}
  {pending : List (String × String)} {stubType target : String}

/-! ## What embedding adds -/

/-- The entities embedded for a type, whatever was moved since. -/
def Embeds (g : ClassGraph) (stubType : String) (n : EntityTree) : Prop :=
  ∃ c resolved name target moves, g.classes.find? stubType = some c ∧
    (g.resolveTree c).result = .ok resolved ∧
    n = (g.strangerEntities stubType name target resolved).map (Entity.retargetAll moves)

theorem Embeds.map_retargetAll {n : EntityTree} (h : g.Embeds stubType n)
    (moves : List (String × String)) : g.Embeds stubType (n.map (Entity.retargetAll moves)) := by
  obtain ⟨c, resolved, name, target, first, hc, hr, rfl⟩ := h
  refine ⟨c, resolved, name, target, first ++ moves, hc, hr, ?_⟩
  rw [Tree.map_map]
  congr 1
  funext e
  exact (Entity.retargetAll_append first moves e).symm

theorem Embeds.stubClass (hwf : g.classes.WellFormed) (hdotted : '$' ∉ stubType.toList)
    {n : EntityTree} (h : g.Embeds stubType n) : n.value.stubClass = stubType := by
  obtain ⟨c, resolved, name, target, moves, hc, hr, rfl⟩ := h
  rw [Tree.value_map, Entity.keep_retargetAll (f := (·.stubClass)) fun _ _ _ => rfl,
    stubClass_strangerEntities, value_cls_of_resolveTree hr]
  exact ((ClassSet.find?_eq_some_iff hwf hdotted).1 hc).2

theorem embedStranger_eq (h : (g.embedStranger t stubType target).result = .ok t') :
    ∃ moves added, t' = .node (t.value.retargetAll moves)
        (t.children.map (Tree.map (Entity.retargetAll moves)) ++ added) ∧
      ∀ n ∈ added, g.Embeds stubType n := by
  rcases embedStranger_cases h with
    ⟨-, heq⟩ | ⟨c, resolved, t₀, name, target', hc, hr, -, ht₀, rfl⟩
  · refine ⟨[], [], ?_, nofun⟩
    rw [EntityTree.map_retargetAll_nil, List.append_nil, heq]
    exact t.node_value_children.symm
  · have hembeds : g.Embeds stubType (g.strangerEntities stubType name target' resolved) :=
      ⟨c, resolved, name, target', [], hc, hr, (Tree.map_eq_self fun _ _ => rfl).symm⟩
    rcases ht₀ with ⟨rfl, rfl⟩ | rfl
    · refine ⟨[], [_], ?_, by simpa using hembeds⟩
      rw [EntityTree.map_retargetAll_nil]
      rfl
    · refine ⟨[(stubType, target')], [_], ?_, by simpa using hembeds⟩
      rw [Tree.addChild, EntityTree.value_retarget, EntityTree.children_retarget]
      rfl

/-- Embedding gives moved types a new place and puts the strangers behind the other entities. -/
theorem embedStrangers_eq (h : (g.embedStrangers t pending).result = .ok t') :
    ∃ moves added, t' = .node (t.value.retargetAll moves)
        (t.children.map (Tree.map (Entity.retargetAll moves)) ++ added) ∧
      ∀ n ∈ added, ∃ q ∈ pending, g.Embeds q.1 n := by
  induction pending generalizing t with
  | nil =>
    cases h
    refine ⟨[], [], ?_, nofun⟩
    rw [EntityTree.map_retargetAll_nil, List.append_nil]
    exact (Tree.node_value_children _).symm
  | cons q pending ih =>
    obtain ⟨mid, hmid, h⟩ := Diagnosed.result_bind_eq_ok.1 h
    obtain ⟨first, stranger, rfl, hstranger⟩ := embedStranger_eq hmid
    obtain ⟨moves, added, rfl, hadded⟩ := ih h
    refine ⟨first ++ moves, stranger.map (Tree.map (Entity.retargetAll moves)) ++ added, ?_,
      fun n hn => ?_⟩
    · have hcomp : Entity.retargetAll moves ∘ Entity.retargetAll first =
          Entity.retargetAll (first ++ moves) :=
        funext fun e => (Entity.retargetAll_append first moves e).symm
      simp only [Tree.value_node, Tree.children_node, List.map_append, List.map_map,
        List.append_assoc, Entity.retargetAll_append, ← hcomp]
      congr 2
      exact List.map_congr_left fun n _ => Tree.map_map _ _ n
    · rcases List.mem_append.1 hn with hn | hn
      · obtain ⟨m, hm, rfl⟩ := List.mem_map.1 hn
        exact ⟨q, List.mem_cons_self, (hstranger m hm).map_retargetAll moves⟩
      · obtain ⟨q', hq', hembeds⟩ := hadded n hn
        exact ⟨q', List.mem_cons_of_mem q hq', hembeds⟩

/-! ## Own entities of a planned tree -/

/-- Own classes lie in the root, strangers do not. -/
theorem own_planClass (hg : g.Accepted) (hroot : root ∈ g.roots)
    (h : (g.planClass root).result = .ok p) :
    ∃ t moves strangers, (g.resolveTree root).result = .ok t ∧
      p.entity.own = (g.ownEntities root t).map (Entity.retargetAll moves) ∧
      p.entity.children = p.entity.own.children ++ strangers ∧
      ∀ n ∈ strangers, Name.isWithin n.value.stubClass root.qualifiedName = false := by
  obtain ⟨hmem, -, -⟩ := mem_roots_iff.1 hroot
  obtain ⟨t, ht, hentity, -⟩ := planClass_root_ok hg hroot h
  have hpending := (embedding_ownEntities hg hmem ht).dotted
  obtain ⟨moves, strangers, hplanned, hstrangers⟩ := embedStrangers_eq hentity
  have hrootStub : p.entity.value.stubClass = root.qualifiedName := (stubClass_of_planClass h).1
  have hinside : ∀ n ∈ (g.ownEntities root t).children.map (Tree.map (Entity.retargetAll moves)),
      Name.isWithin n.value.stubClass root.qualifiedName = true := by
    intro n hn
    obtain ⟨m, hm, rfl⟩ := List.mem_map.1 hn
    rw [Tree.value_map, Entity.keep_retargetAll (f := (·.stubClass)) fun _ _ _ => rfl]
    exact isWithin_of_mem_ownEntities hg hmem ht hm
  have houtside : ∀ n ∈ strangers,
      Name.isWithin n.value.stubClass root.qualifiedName = false := by
    intro n hn
    obtain ⟨q, hq, hembeds⟩ := hstrangers n hn
    obtain ⟨⟨k, hk, hs⟩, -⟩ := (mem_strangers_ownEntities_iff ht).1 hq
    rw [hembeds.stubClass hg.wellFormed (hpending q hq), ← hs]
    exact (moves_of_mem_ownEntities ht hk).outside
  have hnone : strangers.filter
      (fun n => Name.isWithin n.value.stubClass root.qualifiedName) = [] :=
    List.filter_eq_nil_iff.2 fun n hn => by simp [houtside n hn]
  have hown : p.entity.own = (g.ownEntities root t).map (Entity.retargetAll moves) := by
    rw [EntityTree.own, hrootStub, hplanned, Tree.children_node, List.filter_append,
      List.filter_eq_self.2 hinside, hnone, List.append_nil, Tree.value_node,
      ← Tree.value_map (Entity.retargetAll moves), ← Tree.children_map, Tree.node_value_children]
  refine ⟨t, moves, strangers, ht, hown, ?_, houtside⟩
  rw [hown, hplanned, Tree.children_node, Tree.children_map]

/-- What lies directly in a planned root and outside its name was embedded for some type. -/
theorem exists_embeds_of_outside (hg : g.Accepted) (hroot : root ∈ g.roots)
    (h : (g.planClass root).result = .ok p) {n : EntityTree} (hn : n ∈ p.entity.children)
    (hout : Name.isWithin n.value.stubClass root.qualifiedName = false) :
    ∃ stubType, g.Embeds stubType n := by
  obtain ⟨hmem, -, -⟩ := mem_roots_iff.1 hroot
  obtain ⟨t, ht, hentity, -⟩ := planClass_root_ok hg hroot h
  obtain ⟨moves, strangers, hplanned, hstrangers⟩ := embedStrangers_eq hentity
  rw [hplanned, Tree.children_node] at hn
  rcases List.mem_append.1 hn with hn | hn
  · obtain ⟨m, hm, rfl⟩ := List.mem_map.1 hn
    rw [Tree.value_map, Entity.keep_retargetAll (f := (·.stubClass)) fun _ _ _ => rfl,
      isWithin_of_mem_ownEntities hg hmem ht hm] at hout
    cases hout
  · obtain ⟨q, -, hembeds⟩ := hstrangers n hn
    exact ⟨q.1, hembeds⟩

/-- What depends on the class alone and is kept when types are moved is the same in the own entities
as in the classes. -/
theorem map_own {α : Type} {f : Entity → α} {v : StubClass → α}
    (hkeep : ∀ e s x, f (e.retarget s x) = f e)
    (hroot' : ∀ e embedded, f { e with isEmbedded := embedded } = f e)
    (hf : ∀ corrections rc, f (g.entity corrections rc) = v rc.cls) (hg : g.Accepted)
    (hroot : root ∈ g.roots) (h : (g.planClass root).result = .ok p) :
    Tree.map f p.entity.own = (g.treeOf root).map v := by
  obtain ⟨t, moves, -, ht, hown, -, -⟩ := own_planClass hg hroot h
  have hcomp : f ∘ Entity.retargetAll moves = f := funext fun e => Entity.keep_retargetAll hkeep
  rw [hown, Tree.map_map, hcomp, ownEntities, Tree.map_mapRoot (hroot' _ _), Tree.map_map,
    ← (resolveTree_ok ht).1, Tree.map_map]
  exact Tree.map_congr fun rc _ => hf _ rc

/-- The own entity of a class in the tree has the class's fields, some of them corrected. -/
theorem exists_of_mem_own (hg : g.Accepted) (hroot : root ∈ g.roots)
    (h : (g.planClass root).result = .ok p) {e : Entity} (he : e ∈ Tree.values p.entity.own) :
    ∃ rc moves, rc.cls ∈ g.classes.classes ∧ g.isEligible rc.cls = true ∧
      g.classes.outermost rc.cls = root ∧ (g.fieldMap rc.cls).result = .ok rc.fields ∧
      e.fields = ((g.entity (g.correctionsOf root rc) rc).retargetAll moves).fields := by
  obtain ⟨t, moves, -, ht, hown, -, -⟩ := own_planClass hg hroot h
  rw [hown, Tree.values_map] at he
  obtain ⟨e₀, he₀, rfl⟩ := List.mem_map.1 he
  have hclass : ∀ rc ∈ t.values, rc.cls ∈ g.classes.classes ∧ g.isEligible rc.cls = true ∧
      g.classes.outermost rc.cls = root ∧ (g.fieldMap rc.cls).result = .ok rc.fields := by
    intro rc hrc
    obtain ⟨hc, helig, hout⟩ := generated_of_resolveTree hg hroot ht hrc
    exact ⟨hc, helig, hout, (resolveTree_ok ht).2 rc hrc⟩
  rcases mem_values_ownEntities_iff.1 he₀ with rfl | ⟨t', ht', rc, hrc, rfl⟩
  · obtain ⟨hc, helig, hout, hfields⟩ := hclass _ t.value_mem_values
    refine ⟨t.value, moves, hc, helig, hout, hfields, ?_⟩
    exact Entity.fields_retargetAll_congr rfl rfl
  · obtain ⟨hc, helig, hout, hfields⟩ := hclass rc (Tree.mem_values_iff.2 (.inr ⟨t', ht', hrc⟩))
    exact ⟨rc, moves, hc, helig, hout, hfields, rfl⟩

end ClassGraph
end EntityGen
