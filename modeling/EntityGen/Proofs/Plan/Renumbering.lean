import EntityGen.Proofs.Renumbering
import EntityGen.Proofs.Plan.Basic

/-! # Plans of renumbered models

A graph over renumbered classes (`ClassGraph.withClasses`) has the same tables, its trees are the
old ones renumbered, and what is planned from them has no numbers in it. So the order of a model's
definitions leaves no trace in the plan (`plan_perm`). -/

namespace EntityGen

/-! ## Field maps -/

namespace Resolver

variable {f : Nat → Nat} {set : ClassSet} {r : Resolver}

/-- The resolver with renumbered classes. -/
def renumber (f : Nat → Nat) (set : ClassSet) (r : Resolver) : Resolver :=
  { r with classes := set, outermost := r.outermost.renumber f }

theorem fieldCount_renumber (f : Nat → Nat) (c : Option StubClass) :
    fieldCount (c.map (StubClass.renumber f)) = fieldCount c := by
  cases c <;> rfl

theorem isInner_renumber (f : Nat → Nat) (raw : String) (c : Option StubClass) :
    isInner raw (c.map (StubClass.renumber f)) = isInner raw c := by
  cases c with
  | none => rfl
  | some c => simp [isInner]

theorem descriptor_renumber (h : r.classes.Renumbered f set) (returns : String) :
    (r.renumber f set).descriptor returns = r.descriptor returns := by
  have hcollection : ∀ raw type,
      (r.renumber f set).collection raw type = r.collection raw type := by
    intro raw type
    simp only [collection, renumber, h.find?, h.hasField, fieldCount_renumber, isInner_renumber]
  have hsingle : ∀ raw type, (r.renumber f set).single raw type = r.single raw type := by
    intro raw type
    simp only [single, renumber, h.find?, h.hasField, fieldCount_renumber, isInner_renumber]
  have harray : ∀ element, (r.renumber f set).array element = r.array element := fun _ => rfl
  simp only [descriptor, hcollection, hsingle, harray]

theorem addField_renumber (h : r.classes.Renumbered f set) (c : StubClass)
    (declared : List FieldDef) (fields : FieldMap) (owner : StubClass) (method : MethodDef) :
    (r.renumber f set).addField (c.renumber f) declared fields (owner.renumber f) method =
      r.addField c declared fields owner method := by
  have hresolve :
      (r.renumber f set).resolve (owner.renumber f) method = r.resolve owner method := by
    simp only [resolve, descriptor_renumber h, warningFor, StubClass.qualifiedName_renumber]
  have hdrop : ∀ d, dropWarning (c.renumber f) method d = dropWarning c method d := by
    simp only [dropWarning, StubClass.qualifiedName_renumber, implies_true]
  have hcast : ∀ name d, (r.renumber f set).castOf (c.renumber f) name d = r.castOf c name d :=
    fun _ _ => rfl
  simp only [addField, hresolve, hdrop, hcast]

theorem addFields_renumber (h : r.classes.Renumbered f set) (c : StubClass)
    (declared : List FieldDef) (fields : FieldMap) (accessors : List (StubClass × MethodDef)) :
    (r.renumber f set).addFields (c.renumber f) declared fields
        (accessors.map fun a => (a.1.renumber f, a.2)) =
      r.addFields c declared fields accessors := by
  induction accessors generalizing fields with
  | nil => rfl
  | cons a accessors ih =>
    simp only [List.map_cons, addFields, addField_renumber h, ih]

theorem fieldMap_renumber (h : r.classes.Renumbered f set) (c : StubClass) :
    (r.renumber f set).fieldMap (c.renumber f) = r.fieldMap c := by
  have hdeclared : (r.renumber f set).classes.declaredFields (c.renumber f) =
      r.classes.declaredFields c := h.declaredFields c
  have haccessors : (r.renumber f set).classes.visibleAccessors (c.renumber f) =
      (r.classes.visibleAccessors c).map fun a => (a.1.renumber f, a.2) := h.visibleAccessors c
  rw [fieldMap, fieldMap, hdeclared, haccessors, addFields_renumber h]

end Resolver

theorem Stranger.corrections_renumber {f : Nat → Nat} {set set' : ClassSet}
    (h : set.Renumbered f set') (targets : TargetTable) (current : StubClass) (fields : FieldMap) :
    Stranger.corrections set' targets (current.renumber f) fields =
      Stranger.corrections set targets current fields := by
  have howner : ∀ stubType, Stranger.ownerOf set' stubType = Stranger.ownerOf set stubType := by
    intro stubType
    unfold Stranger.ownerOf
    rw [h.find?]
    cases hc : set.find? stubType with
    | none => rfl
    | some c =>
      rw [Option.map_some, Option.bind_some, Option.bind_some,
        h.enclosingOf (ClassSet.mem_of_find? hc)]
      cases set.enclosingOf c <;> rfl
  simp only [Stranger.corrections, howner]
  rfl

/-- A resolved class with its numbers replaced. -/
def ResolvedClass.renumber (f : Nat → Nat) (c : ResolvedClass) : ResolvedClass :=
  { c with cls := c.cls.renumber f }

namespace ClassGraph

variable {f : Nat → Nat} {g : ClassGraph} {set : ClassSet} {c root : StubClass}

/-- The graph with the same tables over other classes. -/
def withClasses (g : ClassGraph) (set : ClassSet) : ClassGraph := { g with classes := set }

@[simp] theorem classes_withClasses (g : ClassGraph) (set : ClassSet) :
    (g.withClasses set).classes = set := rfl

/-! ## Generated classes -/

/-- Of renumbered classes the same ones are generated. -/
theorem filter_isEligible_renumber {set set' : ClassSet} (h : set.Renumbered f set')
    (config : Config) {classes : List StubClass} (hclasses : ∀ c ∈ classes, c ∈ set.classes) :
    (classes.map (StubClass.renumber f)).filter (set'.isEligible config) =
      (classes.filter (set.isEligible config)).map (StubClass.renumber f) := by
  rw [List.filter_map]
  refine congrArg _ (List.filter_congr fun c hc => ?_)
  rw [Function.comp_apply, ClassSet.isEligible, h.owners (hclasses c hc), List.all_map]
  rfl

/-- The tables of a model have no numbers in them. -/
theorem build_renumber {set set' : ClassSet} (h : set.Renumbered f set') (config : Config) :
    build set' config = (build set config).withClasses set' := by
  have hpairs : ∀ suffix,
      NameMap.ofList ((set'.classes.filter (set'.isEligible config)).map fun c =>
          (c.qualifiedName, Name.suffixed c.binaryName suffix)) =
        NameMap.ofList ((set.classes.filter (set.isEligible config)).map fun c =>
          (c.qualifiedName, Name.suffixed c.binaryName suffix)) := by
    intro suffix
    have hperm := (h.classes.filter (set'.isEligible config)).map fun c =>
      (c.qualifiedName, Name.suffixed c.binaryName suffix)
    rw [filter_isEligible_renumber h config fun _ hc => hc, List.map_map] at hperm
    refine NameMap.ofList_perm ?_ hperm
    rw [List.map_map]
    exact h.target.names.sublist (List.filter_sublist.map _)
  unfold build withClasses
  dsimp only
  simp only [TargetTable.ofList, hpairs]

/-! ## Trees of classes -/

section
variable (h : g.classes.Renumbered f set)
include h

theorem fieldMap_renumber (hc : c ∈ g.classes.classes) :
    (g.withClasses set).fieldMap (c.renumber f) = g.fieldMap c := by
  rw [fieldMap, classes_withClasses, h.outermost hc]
  exact Resolver.fieldMap_renumber (r := g.resolver (g.classes.outermost c)) h c

theorem children_renumber (hc : c ∈ g.classes.classes) :
    (g.withClasses set).children (c.renumber f) =
      (g.children c).map (StubClass.renumber f) := by
  rw [children, classes_withClasses, h.nestedOf hc]
  exact filter_isEligible_renumber h g.config fun d hd =>
    ((ClassSet.mem_nestedOf_iff h.source hc).1 hd).1

theorem treeWithin_renumber (n : Nat) (hc : c ∈ g.classes.classes) :
    (g.withClasses set).treeWithin n (c.renumber f) =
      (g.treeWithin n c).map (StubClass.renumber f) := by
  induction n generalizing c with
  | zero => simp [treeWithin]
  | succ n ih =>
    rw [treeWithin, treeWithin, Tree.map_node, children_renumber h hc, List.map_map, List.map_map]
    refine congrArg _ (List.map_congr_left fun d hd => ?_)
    have hd := List.mem_filter.1 hd
    exact ih ((ClassSet.mem_nestedOf_iff h.source hc).1 hd.1).1

theorem resolveTree_renumber (hg : g.Accepted) (hc : c ∈ g.classes.classes) :
    (g.withClasses set).resolveTree (c.renumber f) =
      Tree.map (ResolvedClass.renumber f) <$> g.resolveTree c := by
  have htree : (g.withClasses set).treeOf (c.renumber f) =
      (g.treeOf c).map (StubClass.renumber f) := by
    rw [treeOf, classes_withClasses, h.length_eq, treeWithin_renumber h _ hc]
    rfl
  rw [resolveTree, htree]
  refine Tree.mapLastFirst_map fun d hd => ?_
  have hd := (of_mem_treeWithin hg hc hd).1
  rw [resolveClass, resolveClass, fieldMap_renumber h hd, map_bind]
  rfl

/-! ## Entities -/

omit h in
theorem strangerEntities_renumber (f : Nat → Nat) (set : ClassSet)
    (stubType entityName targetName : String) (t : Tree ResolvedClass) :
    (g.withClasses set).strangerEntities stubType entityName targetName
        (t.map (ResolvedClass.renumber f)) =
      g.strangerEntities stubType entityName targetName t := by
  rw [strangerEntities, strangerEntities, Tree.map_map]
  rfl

theorem ownEntities_renumber (outermost : StubClass) (t : Tree ResolvedClass) :
    (g.withClasses set).ownEntities (outermost.renumber f) (t.map (ResolvedClass.renumber f)) =
      g.ownEntities outermost t := by
  have hcorrections : ∀ c : ResolvedClass,
      (g.withClasses set).correctionsOf (outermost.renumber f) (c.renumber f) =
        g.correctionsOf outermost c :=
    fun c => Stranger.corrections_renumber h g.targets outermost c.fields
  have hentity : (fun c => (g.withClasses set).entity
        ((g.withClasses set).correctionsOf (outermost.renumber f) c) c) ∘
      ResolvedClass.renumber f = fun c => g.entity (g.correctionsOf outermost c) c := by
    funext c
    rw [Function.comp_apply, hcorrections]
    rfl
  have hnested : ((t.value).renumber f).cls.isNested = t.value.cls.isNested :=
    StubClass.isNested_renumber f t.value.cls
  rw [ownEntities, ownEntities, Tree.map_map, Tree.value_map, hentity, hnested]

theorem nameStranger_renumber (t : EntityTree) (hc : c ∈ g.classes.classes)
    (stubType target : String) :
    (g.withClasses set).nameStranger t (c.renumber f) stubType target =
      g.nameStranger t c stubType target := by
  have howner : ((g.withClasses set).classes.enclosingOf (c.renumber f)).map (·.name) =
      (g.classes.enclosingOf c).map (·.name) := by
    rw [classes_withClasses, h.enclosingOf hc, Option.map_map]
    rfl
  rw [nameStranger, nameStranger, howner]

theorem embedStranger_renumber (hg : g.Accepted) (t : EntityTree) (stubType target : String) :
    (g.withClasses set).embedStranger t stubType target = g.embedStranger t stubType target := by
  unfold embedStranger
  rw [classes_withClasses, h.find?]
  cases hc : g.classes.find? stubType with
  | none => rfl
  | some c =>
    have hmem := ClassSet.mem_of_find? hc
    simp only [Option.map_some, nameStranger_renumber h t hmem, resolveTree_renumber h hg hmem,
      Diagnosed.muted_map, bind_map_left, strangerEntities_renumber]

theorem embedStrangers_renumber (hg : g.Accepted) (t : EntityTree)
    (strangers : List (String × String)) :
    (g.withClasses set).embedStrangers t strangers = g.embedStrangers t strangers := by
  induction strangers generalizing t with
  | nil => rfl
  | cons stranger strangers ih =>
    rw [embedStrangers, embedStrangers, embedStranger_renumber h hg]
    exact bind_congr ih

theorem entityTree_renumber (hg : g.Accepted) {t : Tree ResolvedClass}
    (hc : t.value.cls ∈ g.classes.classes) :
    (g.withClasses set).entityTree (t.map (ResolvedClass.renumber f)) = g.entityTree t := by
  have hcls : (t.map (ResolvedClass.renumber f)).value.cls = t.value.cls.renumber f := by
    rw [Tree.value_map]
    rfl
  simp only [entityTree, hcls, classes_withClasses, h.outermost hc, ownEntities_renumber h,
    StubClass.isNested_renumber, embedStrangers_renumber h hg]

/-! ## Field interfaces -/

theorem fieldsTree_renumber (embedded : Bool) (t : Tree ResolvedClass) :
    (g.withClasses set).fieldsTree embedded (t.map (ResolvedClass.renumber f)) =
      g.fieldsTree embedded t := by
  have haccessor : ∀ d, (g.withClasses set).hasIdentityAccessor d = g.hasIdentityAccessor d := by
    intro d
    rw [hasIdentityAccessor, classes_withClasses, h.find?, Option.any_map]
    rfl
  have hinterface : ∀ (c : ResolvedClass) (nested : List ResolvedClass),
      (g.withClasses set).fieldsInterface (c.renumber f) (nested.map (ResolvedClass.renumber f)) =
        g.fieldsInterface c nested := by
    intro c nested
    have hnested : (c.renumber f).cls.isNested = c.cls.isNested :=
      StubClass.isNested_renumber f c.cls
    simp only [fieldsInterface, haccessor, hnested, List.map_map]
    rfl
  simp only [fieldsTree, Tree.mapWithChildren_map, hinterface]

/-! ## Roots -/

theorem planClass_renumber (hg : g.Accepted) (hroot : root ∈ g.classes.classes) :
    (g.withClasses set).planClass (root.renumber f) = g.planClass root := by
  rw [planClass, planClass, resolveTree_renumber h hg hroot, bind_map_left]
  refine Diagnosed.bind_congr_ok fun t ht => ?_
  have hcls : t.value.cls ∈ g.classes.classes := (value_cls_of_resolveTree ht).symm ▸ hroot
  rw [entityTree_renumber h hg hcls, fieldsTree_renumber h]

theorem planClasses_renumber (hg : g.Accepted) {roots : List StubClass}
    (hroots : ∀ root ∈ roots, root ∈ g.classes.classes) :
    (g.withClasses set).planClasses (roots.map (StubClass.renumber f)) = g.planClasses roots := by
  induction roots with
  | nil => rfl
  | cons root roots ih =>
    rw [List.map_cons, planClasses, planClasses,
      planClass_renumber h hg (hroots root List.mem_cons_self),
      ih fun other hother => hroots other (List.mem_cons_of_mem _ hother)]

/-- The roots come in the order of their names, whatever the order of the classes. -/
theorem roots_renumber (hg : g.Accepted) (hg' : (g.withClasses set).Accepted) :
    (g.withClasses set).roots = g.roots.map (StubClass.renumber f) := by
  have hnames : ((g.roots.map (StubClass.renumber f)).map (·.qualifiedName)).Pairwise (· < ·) := by
    rw [List.map_map]
    exact roots_pairwise hg
  have htop : (g.classes.classes.map (StubClass.renumber f)).filter (!·.isNested) =
      g.classes.topLevel.map (StubClass.renumber f) := by
    rw [List.filter_map, ClassSet.topLevel]
    simp only [Function.comp_def, StubClass.isNested_renumber]
  have hsame : ((g.withClasses set).classes.topLevel.filter (g.withClasses set).isEligible).Perm
      ((g.classes.topLevel.filter g.isEligible).map (StubClass.renumber f)) := by
    have hperm := (h.classes.filter (!·.isNested)).filter (set.isEligible g.config)
    rw [htop] at hperm
    exact hperm.trans (.of_eq (filter_isEligible_renumber h g.config fun c hc =>
      (List.mem_filter.1 hc).1))
  have hroots : (g.withClasses set).roots.Perm (g.roots.map (StubClass.renumber f)) :=
    (List.mergeSort_perm _ _).trans (hsame.trans ((List.mergeSort_perm _ _).symm.map _))
  refine hroots.eq_of_pairwise (fun a b _ _ hab hba => ?_)
    (List.pairwise_map.1 (roots_pairwise hg')) (List.pairwise_map.1 hnames)
  exact absurd (String.lt_trans hab hba) (String.lt_irrefl _)

theorem plan_renumber (hg : g.Accepted) (hg' : (g.withClasses set).Accepted) :
    (g.withClasses set).plan = g.plan := by
  have hclasses : (g.withClasses set).planClasses (g.withClasses set).roots =
      g.planClasses g.roots := by
    rw [roots_renumber h hg hg']
    exact planClasses_renumber h hg fun root hroot => (mem_roots_iff.1 hroot).1
  rw [plan, plan, hclasses]
  rfl

end

/-! ## The order of definitions -/

/-- The graphs over the same definitions in another order. -/
theorem exists_renumbered {defs defs' : List ClassDef} {set set' : ClassSet}
    (h : defs.Perm defs') (hset : ClassSet.ofDefs defs = .ok set)
    (hset' : ClassSet.ofDefs defs' = .ok set') : ∃ f, set.Renumbered f set' := by
  obtain ⟨other, f, hother, hf⟩ := ClassSet.ofDefs_perm h hset
  rw [hset'] at hother
  cases hother
  exact ⟨f, hf⟩

/-- **The order of a model's definitions leaves no trace.** Definitions in another order are
accepted alike, and with any configuration both graphs are refused, with the same error, or have the
same tables and the same plan. -/
theorem plan_perm {defs defs' : List ClassDef} (h : defs.Perm defs') :
    ((∃ set, ClassSet.ofDefs defs = .ok set) ↔ ∃ set', ClassSet.ofDefs defs' = .ok set') ∧
      ∀ set set', ClassSet.ofDefs defs = .ok set → ClassSet.ofDefs defs' = .ok set' →
        ∀ config,
          (make set config).map (fun g => (g.targets, g.constructors, g.providers, g.plan)) =
            (make set' config).map fun g => (g.targets, g.constructors, g.providers, g.plan) := by
  refine ⟨⟨fun ⟨set, hset⟩ => ?_, fun ⟨set', hset'⟩ => ?_⟩, fun set set' hset hset' config => ?_⟩
  · obtain ⟨set', -, hset', -⟩ := ClassSet.ofDefs_perm h hset
    exact ⟨set', hset'⟩
  · obtain ⟨set, -, hset, -⟩ := ClassSet.ofDefs_perm h.symm hset'
    exact ⟨set, hset⟩
  · obtain ⟨f, hf⟩ := exists_renumbered h hset hset'
    cases hconfig : config.validate with
    | error e =>
      rw [make, make, hconfig]
      rfl
    | ok u =>
      have hmake : ∀ classes, make classes config = .ok (build classes config) := by
        intro classes
        rw [make, hconfig]
        rfl
      have hg : (build set config).Accepted := ⟨defs, set, config, hset, hmake set⟩
      have hg' : (build set' config).Accepted := ⟨defs', set', config, hset', hmake set'⟩
      have hbuild := build_renumber hf config
      have hplan := plan_renumber (g := build set config) hf hg (hbuild ▸ hg')
      rw [← hbuild] at hplan
      rw [hmake, hmake, Except.map, Except.map, hplan, hbuild]
      rfl

/-- `a.Shop` embeds `a.Catalog.Item`. -/
def shop : List ClassDef :=
  [⟨"a", "Shop", false, none, [], [⟨"getItem", [], "a.Catalog$Item"⟩], []⟩,
    ⟨"a", "Catalog", false, none, [], [],
      [⟨"", "Item", false, none, [], [⟨"getCode", [], "java.lang.String"⟩], []⟩]⟩]

/-- The classes of the shop change their numbers, its plan stays. -/
theorem plan_perm_shop :
    ClassDef.layoutAll none 0 shop.reverse ≠ ClassDef.layoutAll none 0 shop ∧
      ∃ set set' g g' plan, ClassSet.ofDefs shop = .ok set ∧
        ClassSet.ofDefs shop.reverse = .ok set' ∧ make set {} = .ok g ∧ make set' {} = .ok g' ∧
        g.plan = .ok plan ∧ g'.plan = .ok plan := by
  have hset : ClassSet.ofDefs shop = .ok ⟨ClassDef.layoutAll none 0 shop⟩ :=
    ClassSet.ofDefs_eq_ok_iff.2 ⟨by decide, rfl⟩
  obtain ⟨haccepted, hsame⟩ := plan_perm shop.reverse_perm.symm
  obtain ⟨set', hset'⟩ := haccepted.1 ⟨_, hset⟩
  have hmake : ∀ classes, make classes {} = .ok (build classes {}) := by
    have hconfig : Config.fault? {} = none := by decide
    intro classes
    unfold make Config.validate
    rw [hconfig]
    rfl
  obtain ⟨plan, hplan⟩ : ∃ plan, (build ⟨ClassDef.layoutAll none 0 shop⟩ {}).plan = .ok plan :=
    exists_plan_of_isOk (by decide)
  have hboth := hsame _ set' hset hset' {}
  rw [hmake, hmake] at hboth
  have hplans := congrArg (fun v => v.2.2.2) (Except.ok.inj hboth)
  exact ⟨by decide, _, set', _, _, plan, hset, hset', hmake _, hmake set', hplan,
    hplans.symm.trans hplan⟩

end ClassGraph
end EntityGen
