import EntityGen.Proofs.Plan.Coverage
import EntityGen.Proofs.Plan.References

/-! # Names of entities and of those around them

A class must not be called like a class around it. Entities are called after their classes, so own
entities keep the rule where the classes do (`unshadowed_treeOf`); a stranger is put below a root
that its class never lay in, and may get a new name there.

**Main** (`unshadowed_iff`): if classes keep the rule, a planned tree keeps it exactly if no
entity of a stranger has the name of the root, and none below the stranger has the stranger's. A
stranger called like the root keeps its name (`stranger_shadows_root`). -/

namespace EntityGen

namespace Tree

variable {α β : Type} {t : Tree α} {v : α} {ts : List (Tree α)}

/-- No value stands below an equal one. -/
def Unshadowed (t : Tree α) : Prop := ∀ around v, t.At around v → v ∉ around

theorem At.mem_values {around : List α} (h : t.At around v) : v ∈ t.values := by
  induction h with
  | root v ts =>
    rw [values_node]
    exact List.mem_cons_self
  | inside ht _ ih => exact mem_values_iff.2 (.inr ⟨_, ht, ih⟩)

theorem at_child {u : Tree α} (h : u ∈ t.children) : t.At [t.value] u.value := by
  cases t
  cases u
  exact .inside h (.root _ _)

theorem unshadowed_node :
    (node v ts).Unshadowed ↔ ∀ t ∈ ts, v ∉ t.values ∧ t.Unshadowed := by
  constructor
  · intro h t ht
    constructor
    · intro hv
      obtain ⟨around, hat⟩ := exists_at hv
      exact h _ _ (.inside ht hat) List.mem_cons_self
    · intro around w hat hw
      exact h _ _ (.inside ht hat) (List.mem_cons_of_mem _ hw)
  · intro h around w hat
    cases hat with
    | root => exact List.not_mem_nil
    | inside ht hat =>
      obtain ⟨hv, ht⟩ := h _ ht
      rw [List.mem_cons, not_or]
      exact ⟨fun heq => hv (heq ▸ hat.mem_values), ht _ _ hat⟩

theorem unshadowed_iff_children :
    t.Unshadowed ↔ ∀ u ∈ t.children, t.value ∉ u.values ∧ u.Unshadowed := by
  rw [← unshadowed_node, node_value_children]

theorem unshadowed_map_iff {f : α → β} :
    (t.map f).Unshadowed ↔ ∀ around v, t.At around v → f v ∉ around.map f := by
  constructor
  · intro h around v hat
    exact h _ _ (hat.map f)
  · intro h around w hat
    obtain ⟨above, v, hv, rfl, rfl⟩ := exists_of_at_map hat
    exact h _ _ hv

end Tree

/-- No class has the name of a class around it. -/
def ClassSet.Unshadowed (set : ClassSet) : Prop :=
  ∀ c ∈ set.classes, ∀ o ∈ set.owners c, c.name = o.name → c = o

instance (set : ClassSet) : Decidable set.Unshadowed :=
  inferInstanceAs (Decidable (∀ c ∈ set.classes, ∀ o ∈ set.owners c, c.name = o.name → c = o))

namespace ClassGraph

variable {g : ClassGraph} {root c : StubClass} {p : PlannedClass} {plan : Plan}

/-- Classes that are not called like those around them have entities of which the same is true. -/
theorem unshadowed_treeOf (hg : g.Accepted) (hshadow : g.classes.Unshadowed)
    (hc : c ∈ g.classes.classes) :
    ((g.treeOf c).map fun d => d.name ++ g.config.entitySuffix).Unshadowed := by
  suffices h : ∀ n c, c ∈ g.classes.classes →
      ((g.treeWithin n c).map fun d => d.name ++ g.config.entitySuffix).Unshadowed from h _ c hc
  intro n
  induction n with
  | zero =>
    intro c _
    rw [treeWithin, Tree.map_node]
    exact Tree.unshadowed_node.2 fun _ h => absurd h List.not_mem_nil
  | succ n ih =>
    intro c hc
    rw [treeWithin, Tree.map_node, Tree.unshadowed_node, List.map_map]
    intro t ht
    obtain ⟨b, hb, rfl⟩ := List.mem_map.1 ht
    obtain ⟨hmem, hbc, -⟩ := (mem_children_iff hg hc).1 hb
    refine ⟨fun hname => ?_, ih b hmem⟩
    rw [Function.comp_apply, Tree.values_map] at hname
    obtain ⟨d, hd, hname⟩ := List.mem_map.1 hname
    obtain ⟨hd, hdb, -⟩ := of_mem_treeWithin hg hmem hd
    have hstep := (ClassSet.enclosingOf_eq_some_iff hg.wellFormed hmem).2 ⟨hc, hbc⟩
    have howner := (ClassSet.mem_owners_iff hg.wellFormed hd).2 (hdb.trans (.step hstep (.refl c)))
    have heq := hshadow d hd c howner ((String.append_left_inj _).1 hname)
    have hle := hdb.id_le hg.wellFormed hd
    have hlt := hbc.later
    rw [heq] at hle
    omega

/-- Below a stranger are the entities of the classes in its class. -/
theorem children_of_embeds {stubType : String} {n : EntityTree} (h : g.Embeds stubType n) :
    ∃ c ∈ g.classes.classes, (Tree.map (·.entityName) n).children =
      ((g.treeOf c).map fun d => d.name ++ g.config.entitySuffix).children := by
  obtain ⟨c, resolved, name, target, moves, hc, hr, rfl⟩ := h
  refine ⟨c, ClassSet.mem_of_find? hc, ?_⟩
  have hkeep : (fun e : Entity => e.entityName) ∘ Entity.retargetAll moves = (·.entityName) :=
    funext fun e => Entity.keep_retargetAll (f := (·.entityName)) fun _ _ _ => rfl
  rw [Tree.map_map, hkeep, ← (resolveTree_ok hr).1, Tree.map_map, strangerEntities,
    Tree.children_map, Tree.children_mapRoot, Tree.children_map, Tree.children_map, List.map_map]
  exact List.map_congr_left fun u _ => Tree.map_map _ _ u

/-- In the names of a tree no name comes again below itself if that is so for each child, and the
name at the root is not among a child's. -/
theorem unshadowed_names_iff {t : EntityTree} :
    (Tree.map (·.entityName) t).Unshadowed ↔ ∀ n ∈ t.children,
      (∀ e ∈ n.values, e.entityName ≠ t.value.entityName) ∧
        (Tree.map (·.entityName) n).Unshadowed := by
  rw [Tree.unshadowed_iff_children, Tree.children_map, List.forall_mem_map]
  simp only [Tree.value_map, Tree.values_map, List.mem_map, not_exists, not_and, ne_eq]

/-- The names in a stranger's tree are as they should be but for the one at its root. -/
theorem unshadowed_embeds_iff (hg : g.Accepted) (hshadow : g.classes.Unshadowed)
    {stubType : String} {n : EntityTree} (h : g.Embeds stubType n) :
    (Tree.map (·.entityName) n).Unshadowed ↔
      ∀ m ∈ n.children, ∀ e ∈ m.values, e.entityName ≠ n.value.entityName := by
  obtain ⟨c, hc, hchildren⟩ := children_of_embeds h
  have hclasses := Tree.unshadowed_iff_children.1 (unshadowed_treeOf hg hshadow hc)
  rw [← hchildren, Tree.children_map, List.forall_mem_map] at hclasses
  rw [unshadowed_names_iff]
  exact forall₂_congr fun m hm => and_iff_left (hclasses m hm).2

/-- **Only strangers shadow what is around them.** Where no class has the name of a class around it,
an entity has the name of one around it exactly if it belongs to a stranger and is called like the
root, or like the stranger that it is below. -/
theorem unshadowed_iff (hg : g.Accepted) (hplan : g.plan = .ok plan)
    (hshadow : g.classes.Unshadowed) :
    ∀ t ∈ plan.entities,
      (∀ around e, t.At around e → ∀ o ∈ around, o.entityName ≠ e.entityName) ↔
        ∀ n ∈ t.children, Name.isWithin n.value.stubClass t.value.stubClass = false →
          (∀ e ∈ n.values, e.entityName ≠ t.value.entityName) ∧
            ∀ m ∈ n.children, ∀ e ∈ m.values, e.entityName ≠ n.value.entityName := by
  intro t ht
  obtain ⟨root, hroot, p, hp, rfl⟩ := (exists_root_of_mem_plan hplan).1 t ht
  have hown : (Tree.map (·.entityName) p.entity.own).Unshadowed := by
    rw [map_own (v := fun c => c.name ++ g.config.entitySuffix) (fun _ _ _ => rfl)
      (fun _ _ => rfl) (fun _ _ => rfl) hg hroot hp]
    exact unshadowed_treeOf hg hshadow (mem_roots_iff.1 hroot).1
  rw [unshadowed_names_iff] at hown
  have hstub := (stubClass_of_planClass hp).1
  calc (∀ around e, p.entity.At around e → ∀ o ∈ around, o.entityName ≠ e.entityName)
      ↔ (Tree.map (·.entityName) p.entity).Unshadowed := by
        rw [Tree.unshadowed_map_iff]
        simp only [List.mem_map, not_exists, not_and, ne_eq]
    _ ↔ _ := by
        rw [unshadowed_names_iff]
        refine forall₂_congr fun n hn => ?_
        cases hin : Name.isWithin n.value.stubClass p.entity.value.stubClass with
        | true =>
          have hmem : n ∈ p.entity.own.children := List.mem_filter.2 ⟨hn, hin⟩
          simp only [reduceCtorEq, false_imp_iff, iff_true]
          exact hown n hmem
        | false =>
          rw [hstub] at hin
          obtain ⟨stubType, hembeds⟩ := exists_embeds_of_outside hg hroot hp hn hin
          rw [unshadowed_embeds_iff hg hshadow hembeds]
          simp only [true_imp_iff]

theorem exists_plan_namesakes : ∃ plan, namesakes.plan = .ok plan :=
  exists_plan fun root hroot => Diagnosed.exists_of_isOk (isOk_planClass_namesakes root hroot)

/-- Nothing is embedded below the notes in the offer, and none of them is called like the offer. -/
theorem names_namesakes : ∃ root ∈ namesakes.roots,
    ((namesakes.planClass root).result.toOption.map fun p =>
      (p.entity.nestedNames, p.entity.children.all fun n =>
        n.children.isEmpty && n.values.all (·.entityName ≠ p.entity.value.entityName))) =
      some (["NoteJPA", "CandidateNoteJPA", "PersonNoteJPA"], true) := by
  rw [roots_namesakes]
  decide +kernel

theorem unshadowed_namesakes : namesakes.classes.Unshadowed ∧
    ∃ plan, namesakes.plan = .ok plan ∧ ∃ t ∈ plan.entities,
      t.nestedNames = ["NoteJPA", "CandidateNoteJPA", "PersonNoteJPA"] ∧
        ∀ around e, t.At around e → ∀ o ∈ around, o.entityName ≠ e.entityName := by
  have hclasses : namesakes.classes.Unshadowed := by decide +kernel
  obtain ⟨plan, hplan⟩ := exists_plan_namesakes
  obtain ⟨root, hroot, h⟩ := names_namesakes
  obtain ⟨p, hp, h⟩ := Diagnosed.exists_of_toOption h
  obtain ⟨hnames, hall⟩ := Prod.mk.inj h
  have ht := mem_entities_of_planClass hplan hroot hp
  refine ⟨hclasses, plan, hplan, p.entity, ht, hnames, ?_⟩
  rw [unshadowed_iff accepted_namesakes hplan hclasses p.entity ht]
  intro n hn _
  have hchild := List.all_eq_true.1 hall n hn
  rw [Bool.and_eq_true, List.isEmpty_iff, List.all_eq_true] at hchild
  obtain ⟨hempty, hdiffer⟩ := hchild
  refine ⟨fun e he => by simpa using hdiffer e he, fun m hm => ?_⟩
  rw [hempty] at hm
  cases hm

/-- A note with another one on top, that of a person. -/
def memos : ClassGraph :=
  build ⟨ClassDef.layoutAll none 0
    [⟨"a", "Note", false, none, [], [⟨"getOther", [], "a.Person$Note"⟩], []⟩,
      ⟨"a", "Person", false, none, [], [],
        [⟨"", "Note", false, none, [], [⟨"getText", [], "java.lang.String"⟩], []⟩]⟩]⟩ {}

theorem names_memos : ∃ root ∈ memos.roots,
    ((memos.planClass root).result.toOption.map fun p =>
      (p.entity.value.entityName, p.entity.children.map (·.value.entityName))) =
      some ("NoteJPA", ["NoteJPA"]) := by
  rw [show memos.roots = memos.classes.classes.filter (!·.isNested) from
    roots_eq (by decide +kernel) (by decide +kernel)]
  decide +kernel

/-- The note of a person is embedded in the entity of a note under the name of this very entity. -/
theorem stranger_shadows_root : memos.Accepted ∧ memos.classes.Unshadowed ∧
    ∃ plan, memos.plan = .ok plan ∧ ∃ t ∈ plan.entities, ∃ around e, t.At around e ∧
      ∃ o ∈ around, o.entityName = e.entityName := by
  have hg : memos.Accepted := accepted_of_fault?_eq_none (by decide +kernel) (by decide +kernel)
  obtain ⟨plan, hplan⟩ : ∃ plan, memos.plan = .ok plan := exists_plan_of_isOk (by decide +kernel)
  obtain ⟨root, hroot, h⟩ := names_memos
  obtain ⟨p, hp, h⟩ := Diagnosed.exists_of_toOption h
  obtain ⟨hvalue, hchildren⟩ := Prod.mk.inj h
  obtain ⟨n, hn, hname⟩ : ∃ n ∈ p.entity.children, n.value.entityName = "NoteJPA" :=
    List.mem_map.1 (hchildren ▸ List.mem_cons_self)
  exact ⟨hg, by decide +kernel, plan, hplan, p.entity, mem_entities_of_planClass hplan hroot hp,
    [p.entity.value], n.value, Tree.at_child hn, p.entity.value, List.mem_cons_self,
    hvalue.trans hname.symm⟩

end ClassGraph

end EntityGen
