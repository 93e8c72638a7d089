import EntityGen.Proofs.Plan.Own
import Mathlib.Data.List.Perm.Basic

/-! # Each generated class once

The trees of the roots hold each generated class once (`roots_trees_perm`), and what a plan holds is
made along these trees.

* `outputs_cover`: the field interfaces, the own entities, the target table and the factory of a
  plan are about the same classes, each once; the two trees of a root have one shape; and the
  factory has for each class the qualified name of its interface.
* `warnings_cover`: the warnings of a plan are those of the field maps of the generated classes. -/

namespace EntityGen

/-! ## Places in trees -/

namespace Tree

variable {α β : Type} {t : Tree α} {around : List α} {v : α}

/-- `v` stands in the tree with the values of `around` above it, the root's first. -/
inductive At : Tree α → List α → α → Prop
  | root (v : α) (ts : List (Tree α)) : At (node v ts) [] v
  | inside {v w : α} {ts : List (Tree α)} {t : Tree α} {around : List α} (ht : t ∈ ts)
      (h : At t around w) : At (node v ts) (v :: around) w

theorem exists_at (h : v ∈ t.values) : ∃ around, t.At around v := by
  induction t using induction with
  | h w ts ih =>
    rw [values_node, List.mem_cons, List.mem_flatMap] at h
    rcases h with rfl | ⟨t, ht, h⟩
    · exact ⟨[], .root _ _⟩
    · obtain ⟨around, h⟩ := ih t ht h
      exact ⟨w :: around, .inside ht h⟩

theorem At.map (f : α → β) (h : t.At around v) : (t.map f).At (around.map f) (f v) := by
  induction h with
  | root v ts =>
    rw [map_node]
    exact .root _ _
  | inside ht _ ih =>
    rw [map_node]
    exact .inside (List.mem_map_of_mem ht) ih

/-- What stands in a mapped tree stood at the same place before. -/
theorem exists_of_at_map {f : α → β} {around : List β} {w : β} (h : (t.map f).At around w) :
    ∃ above v, t.At above v ∧ above.map f = around ∧ f v = w := by
  induction t using induction generalizing around with
  | h v ts ih =>
    rw [map_node] at h
    cases h with
    | root => exact ⟨[], v, .root v ts, rfl, rfl⟩
    | inside hmem h =>
      obtain ⟨t, ht, rfl⟩ := List.mem_map.1 hmem
      obtain ⟨above, u, hu, rfl, rfl⟩ := ih t ht h
      exact ⟨v :: above, u, .inside ht hu, rfl, rfl⟩

end Tree

/-- The path of a package, unless it is empty, and the names below it. -/
def Name.path (package : String) (names : List String) : String :=
  String.ofList <| Text.join '.' <|
    (if package.isEmpty then [] else [package.toList]) ++ names.map String.toList

/-- The qualified name of an interface inside those of `around`. -/
def FieldsInterface.qualifiedName (around : List FieldsInterface) (f : FieldsInterface) : String :=
  Name.path f.package ((around ++ [f]).map (·.interfaceName))

namespace ClassGraph

variable {g : ClassGraph} {root c d : StubClass} {p : PlannedClass} {plan : Plan}

/-- The qualified names of the generated classes. -/
def generatedNames (g : ClassGraph) : List String :=
  (g.classes.classes.filter g.isEligible).map (·.qualifiedName)

/-! ## Both trees of a root -/

/-- What depends on the class alone is the same in the field interfaces as in the classes. -/
theorem map_fieldsTree {γ : Type} {h : FieldsInterface → γ} {v : StubClass → γ}
    (hh : ∀ rc nested, h (g.fieldsInterface rc nested) = v rc.cls)
    (hroot : ∀ f embedded, h { f with isEmbedded := embedded } = h f) (embedded : Bool)
    (t : Tree ResolvedClass) : (g.fieldsTree embedded t).map h = (t.map (·.cls)).map v := by
  rw [fieldsTree, Tree.map_mapRoot (hroot _ _), Tree.map_map]
  exact Tree.map_mapWithChildren hh t

/-- The own entities and the field interfaces of a root are of the classes in its tree. -/
theorem stubClasses_of_trees (hg : g.Accepted) (hroot : root ∈ g.roots)
    (hp : (g.planClass root).result = .ok p) :
    Tree.map (·.stubClass) p.entity.own = (g.treeOf root).map (·.qualifiedName) ∧
      Tree.map (·.stubClass) p.fields = (g.treeOf root).map (·.qualifiedName) := by
  obtain ⟨t, ht, -, hfields⟩ := planClass_ok hp
  refine ⟨map_own (fun _ _ _ => rfl) (fun _ _ => rfl) (fun _ _ => rfl) hg hroot hp, ?_⟩
  rw [hfields, map_fieldsTree (v := (·.qualifiedName)) (fun _ _ => rfl) fun _ _ => rfl,
    (resolveTree_ok ht).1]

/-- The trees of a plan are of the trees of the roots. -/
theorem stubClasses_of_plan_trees (hg : g.Accepted) (hplan : g.plan = .ok plan) :
    plan.entities.map (fun t => Tree.map (·.stubClass) t.own) =
        g.roots.map (fun root => (g.treeOf root).map (·.qualifiedName)) ∧
      plan.fields.map (Tree.map (·.stubClass)) =
        g.roots.map (fun root => (g.treeOf root).map (·.qualifiedName)) := by
  obtain ⟨planned, hplanned, hentities, hfields, -⟩ := plan_ok hplan
  rw [hentities, hfields, List.map_map, List.map_map]
  clear hentities hfields
  generalize hroots : g.roots = roots at hplanned
  have hsub : ∀ root ∈ roots, root ∈ g.roots := fun root hroot => hroots ▸ hroot
  clear hroots
  induction hplanned with
  | nil => exact ⟨rfl, rfl⟩
  | cons hp _ ih =>
    obtain ⟨hentity, hfield⟩ := stubClasses_of_trees hg (hsub _ List.mem_cons_self) hp
    obtain ⟨ihe, ihf⟩ := ih fun root hroot => hsub root (List.mem_cons_of_mem _ hroot)
    refine ⟨?_, ?_⟩
    · rw [List.map_cons, List.map_cons, Function.comp_apply, hentity, ihe]
    · rw [List.map_cons, List.map_cons, Function.comp_apply, hfield, ihf]

/-- Trees with the stubs of the trees of the roots have the generated classes' names, each once. -/
theorem perm_generatedNames (hg : g.Accepted) {γ : Type} {f : γ → String} {ts : List (Tree γ)}
    (h : ts.map (Tree.map f) = g.roots.map fun root => (g.treeOf root).map (·.qualifiedName)) :
    ((ts.flatMap Tree.values).map f).Perm g.generatedNames := by
  have hvalues : (ts.flatMap Tree.values).map f =
      (g.roots.flatMap fun root => (g.treeOf root).values).map (·.qualifiedName) := by
    have hflat := congrArg (List.flatMap Tree.values) h
    simpa only [List.flatMap_map, Tree.values_map, ← List.map_flatMap] using hflat
  rw [hvalues]
  exact (roots_trees_perm hg).map _

/-! ## Names of interfaces -/

theorem providers_eq (hg : g.Accepted) : g.providers = NameMap.ofList
    ((g.classes.classes.filter g.isEligible).map fun c =>
      (c.qualifiedName, Name.suffixed c.binaryName g.config.fieldsSuffix)) :=
  congrArg (·.providers) hg.eq_build

theorem providers_get?_of_eligible (hg : g.Accepted) (hc : c ∈ g.classes.classes)
    (he : g.isEligible c = true) :
    g.providers.get? c.qualifiedName = some (Name.suffixed c.binaryName g.config.fieldsSuffix) := by
  rw [providers_eq hg]
  exact (NameMap.get?_ofList_eq_some_iff (names_nodup hg _)).2
    (List.mem_map_of_mem (List.mem_filter.2 ⟨hc, he⟩))

theorem suffixed_directlyIn (h : c.DirectlyIn d) (hname : '$' ∉ c.name.toList) (suffix : String) :
    Name.suffixed c.binaryName suffix =
      Name.suffixed d.binaryName suffix ++ "." ++ (c.name ++ suffix) := by
  rw [Name.suffixed, h.binaryName, String.toList_append, String.toList_append, Text.replace_append,
    Text.replace_append, Text.replace_eq_self hname, Name.suffixed]
  apply String.toList_injective
  simp [Text.replace]

/-- In a class's tree the names of the classes on the way down lead from its generated name to those
of the classes in it. -/
theorem suffixed_of_at (hg : g.Accepted) (hnames : ∀ c ∈ g.classes.classes, '$' ∉ c.name.toList)
    (suffix : String) {n : Nat} {around : List StubClass} (hc : c ∈ g.classes.classes)
    (h : (g.treeWithin n c).At around d) :
    ∃ inner, around ++ [d] = c :: inner ∧ d.package = c.package ∧
      (Name.suffixed d.binaryName suffix).toList = (Name.suffixed c.binaryName suffix).toList ++
        inner.flatMap fun e => '.' :: (e.name ++ suffix).toList := by
  induction n generalizing c around with
  | zero =>
    cases h with
    | root => exact ⟨[], rfl, rfl, by simp⟩
    | inside ht _ => cases ht
  | succ n ih =>
    cases h with
    | root => exact ⟨[], rfl, rfl, by simp⟩
    | inside ht h =>
      obtain ⟨b, hb, rfl⟩ := List.mem_map.1 ht
      obtain ⟨hmem, hbc, -⟩ := (mem_children_iff hg hc).1 hb
      obtain ⟨inner, hinner, hpackage, hname⟩ := ih hmem h
      refine ⟨b :: inner, by rw [List.cons_append, hinner], hpackage.trans hbc.package, ?_⟩
      rw [hname, suffixed_directlyIn hbc (hnames b hmem)]
      simp

theorem suffixed_onTop (h : c.OnTop) (hpackage : '$' ∉ c.package.toList)
    (hname : '$' ∉ c.name.toList) (suffix : String) :
    Name.suffixed c.binaryName suffix = Name.path c.package [c.name ++ suffix] := by
  have hbinary : '$' ∉ c.binaryName.toList := by
    rw [h.binaryName, h.qualifiedName]
    split
    · exact hname
    · simp [hpackage, hname]
  rw [Name.suffixed, Text.replace_eq_self hbinary, String.ofList_toList, h.binaryName,
    h.qualifiedName, Name.path]
  apply String.toList_injective
  split <;> simp [Text.join]

/-- The name of a generated class's interface is the path through the interfaces around it. -/
theorem suffixed_eq_path (hg : g.Accepted)
    (hnames : ∀ c ∈ g.classes.classes, '$' ∉ c.package.toList ∧ '$' ∉ c.name.toList)
    (hroot : root ∈ g.roots) {around : List StubClass} (h : (g.treeOf root).At around d)
    (suffix : String) :
    Name.suffixed d.binaryName suffix =
      Name.path d.package ((around ++ [d]).map fun e => e.name ++ suffix) := by
  obtain ⟨hmem, htop, -⟩ := mem_roots_iff.1 hroot
  have hontop := ClassSet.onTop_of_not_isNested hg.wellFormed hmem htop
  obtain ⟨hpackage, hname⟩ := hnames root hmem
  obtain ⟨inner, hinner, hsame, hpath⟩ :=
    suffixed_of_at hg (fun c hc => (hnames c hc).2) suffix hmem h
  apply String.toList_injective
  rw [hpath, hinner, hsame, suffixed_onTop hontop hpackage hname, Name.path, Name.path]
  split <;> simp [Text.join_cons, List.flatMap_map]

/-- A generated class has its interface in the plan, under the class's generated name. -/
theorem exists_interface (hg : g.Accepted) (hplan : g.plan = .ok plan)
    (hnames : ∀ c ∈ g.classes.classes, '$' ∉ c.package.toList ∧ '$' ∉ c.name.toList)
    (hc : c ∈ g.classes.classes) (he : g.isEligible c = true) :
    ∃ t ∈ plan.fields, ∃ around f, Tree.At t around f ∧ f.stubClass = c.qualifiedName ∧
      Name.suffixed c.binaryName g.config.fieldsSuffix = f.qualifiedName around := by
  have hroot := outermost_mem_roots hg hc he
  obtain ⟨hmem, -, hin⟩ := ClassSet.outermost_spec hg.wellFormed hc
  obtain ⟨p, hp, -, hplanned⟩ := exists_of_mem_roots hplan hroot
  obtain ⟨around, hat⟩ := Tree.exists_at ((mem_values_treeOf_iff hg hmem).2 (.inr ⟨hc, hin, he⟩))
  -- the class and its interface stand at the same place, and their names agree on the way
  obtain ⟨t, ht, -, htree⟩ := planClass_ok hp
  let view (f : FieldsInterface) := (f.package, f.interfaceName, f.stubClass)
  let classView (c : StubClass) :=
    (c.package, c.name ++ g.config.fieldsSuffix, c.qualifiedName)
  have hview : Tree.map view p.fields = (g.treeOf (g.classes.outermost c)).map classView := by
    rw [htree, map_fieldsTree (v := classView) (fun _ _ => rfl) fun _ _ => rfl,
      (resolveTree_ok ht).1]
  have hplace := hat.map classView
  rw [← hview] at hplace
  obtain ⟨above, f, hf, habove, hsame⟩ := Tree.exists_of_at_map hplace
  have hinterfaces : above.map (·.interfaceName) =
      around.map fun e => e.name ++ g.config.fieldsSuffix := by
    simpa [view, classView, Function.comp_def] using congrArg (List.map fun v => v.2.1) habove
  obtain ⟨hpackage, hinterface, hstub⟩ : f.package = c.package ∧
      f.interfaceName = c.name ++ g.config.fieldsSuffix ∧ f.stubClass = c.qualifiedName := by
    simpa [view, classView] using hsame
  refine ⟨p.fields, hplanned, above, f, hf, hstub, ?_⟩
  rw [suffixed_eq_path hg hnames hroot hat, FieldsInterface.qualifiedName, List.map_append,
    List.map_append, hinterfaces, hpackage]
  simp [hinterface]

/-! ## Outputs -/

/-- **The outputs of a plan are about the generated classes, each once.** -/
theorem outputs_cover (hg : g.Accepted) (hplan : g.plan = .ok plan) :
    g.generatedNames.Nodup ∧
    ((plan.fields.flatMap Tree.values).map (·.stubClass)).Perm g.generatedNames ∧
    (((plan.entities.map EntityTree.own).flatMap Tree.values).map (·.stubClass)).Perm
      g.generatedNames ∧
    g.targets.byStub.keys.Perm g.generatedNames ∧
    plan.factory.providers.keys.Perm g.generatedNames ∧
    plan.entities.map (fun t => Tree.map (·.stubClass) t.own) =
      plan.fields.map (Tree.map (·.stubClass)) ∧
    ((∀ c ∈ g.classes.classes, '$' ∉ c.package.toList ∧ '$' ∉ c.name.toList) →
      ∀ c ∈ g.classes.classes, g.isEligible c = true →
        ∃ t ∈ plan.fields, ∃ around f, Tree.At t around f ∧ f.stubClass = c.qualifiedName ∧
          plan.factory.providers.get? c.qualifiedName = some (f.qualifiedName around)) := by
  obtain ⟨hentities, hfields⟩ := stubClasses_of_plan_trees hg hplan
  have hfactory : plan.factory.providers = g.providers := by rw [factory_of_plan hplan]; rfl
  have hkeys : ∀ suffix, (NameMap.ofList ((g.classes.classes.filter g.isEligible).map fun c =>
      (c.qualifiedName, Name.suffixed c.binaryName suffix))).keys.Perm g.generatedNames := by
    intro suffix
    have hperm := NameMap.keys_ofList_perm (names_nodup hg suffix)
    rwa [List.map_map] at hperm
  refine ⟨hg.wellFormed.names.sublist (List.filter_sublist.map _),
    perm_generatedNames hg hfields, perm_generatedNames hg ?_, ?_, ?_, hentities.trans hfields.symm,
    fun hnames c hc he => ?_⟩
  · rw [List.map_map]
    exact hentities
  · rw [byStub_eq hg]
    exact hkeys _
  · rw [hfactory, providers_eq hg]
    exact hkeys _
  · obtain ⟨t, ht, around, f, hf, hstub, hname⟩ := exists_interface hg hplan hnames hc he
    refine ⟨t, ht, around, f, hf, hstub, ?_⟩
    rw [hfactory, providers_get?_of_eligible hg hc he, hname]

/-- `a.Order` embeds `a.Catalog.Item`, which has a class of its own and a field to warn of. -/
def catalog : ClassGraph :=
  let part : ClassDef := ⟨"", "Part", false, none, [], [⟨"getCode", [], "java.lang.String"⟩], []⟩
  let item : ClassDef := ⟨"", "Item", false, none, [], [⟨"getTags", [], "java.util.List"⟩], [part]⟩
  build ⟨ClassDef.layoutAll none 0
    [⟨"a", "Order", false, none, [], [⟨"getItem", [], "a.Catalog$Item"⟩], []⟩,
      ⟨"a", "Catalog", false, none, [], [⟨"getItems", [], "a.Catalog$Item[]"⟩],
        [item, ⟨"", "ItemFactory", false, none, [], [], []⟩]⟩]⟩ {}

theorem accepted_catalog : catalog.Accepted :=
  accepted_of_fault?_eq_none (by decide) (by decide +kernel)

theorem exists_plan_catalog : ∃ plan, catalog.plan = .ok plan :=
  exists_plan_of_isOk (by decide)

theorem outputs_cover_catalog : ∃ plan, catalog.plan = .ok plan ∧
    (((plan.entities.map EntityTree.own).flatMap Tree.values).map (·.stubClass)).Perm
      ["a.Order", "a.Catalog", "a.Catalog.Item", "a.Catalog.Item.Part"] ∧
    ∃ t ∈ plan.fields, ∃ around f, Tree.At t around f ∧ f.stubClass = "a.Catalog.Item.Part" ∧
      plan.factory.providers.get? "a.Catalog.Item.Part" = some (f.qualifiedName around) := by
  obtain ⟨plan, hplan⟩ := exists_plan_catalog
  obtain ⟨-, -, hentities, -, -, -, hpaths⟩ := outputs_cover accepted_catalog hplan
  have hnames : catalog.generatedNames =
      ["a.Order", "a.Catalog", "a.Catalog.Item", "a.Catalog.Item.Part"] := by decide
  have hpart : ∃ c ∈ catalog.classes.classes, catalog.isEligible c = true ∧
      c.qualifiedName = "a.Catalog.Item.Part" := by decide
  obtain ⟨c, hc, he, hname⟩ := hpart
  exact ⟨plan, hplan, hnames ▸ hentities, hname ▸ hpaths (by decide) c hc he⟩

/-! ## Warnings -/

/-- Embedding warns of nothing: what a stranger's fields are warned of is left to its own class. -/
theorem warnings_embedStrangers (t : EntityTree) (strangers : List (String × String)) :
    (g.embedStrangers t strangers).warnings = [] := by
  have hone : ∀ t stubType target, (g.embedStranger t stubType target).warnings = [] := by
    intro t stubType target
    unfold embedStranger
    split
    · rfl
    · exact Diagnosed.warnings_bind_eq_nil rfl fun _ => rfl
  induction strangers generalizing t with
  | nil => rfl
  | cons q strangers ih => exact Diagnosed.warnings_bind_eq_nil (hone _ _ _) ih

theorem warnings_entityTree (t : Tree ResolvedClass) : (g.entityTree t).warnings = [] := by
  unfold entityTree
  dsimp only
  split
  · rfl
  · exact warnings_embedStrangers _ _

theorem warnings_resolveClass (c : StubClass) :
    (g.resolveClass c).warnings = (g.fieldMap c).warnings := by
  unfold resolveClass
  cases h : (g.fieldMap c).result with
  | error e => rw [Diagnosed.bind_error h]
  | ok fields =>
    rw [Diagnosed.bind_ok h]
    exact List.append_nil _

/-- Planning a root warns of the fields of the classes in its tree. -/
theorem warnings_planClass (hp : (g.planClass root).result = .ok p) :
    (g.planClass root).warnings.Perm
      ((g.treeOf root).values.flatMap fun c => (g.fieldMap c).warnings) := by
  obtain ⟨t, ht, hentity, -⟩ := planClass_ok hp
  have htree : (g.resolveTree root).warnings.Perm
      ((g.treeOf root).values.flatMap fun c => (g.resolveClass c).warnings) :=
    Tree.warnings_mapLastFirst ht
  simp only [warnings_resolveClass] at htree
  rw [planClass, Diagnosed.bind_ok ht, Diagnosed.bind_ok hentity, warnings_entityTree,
    Diagnosed.pure_def, List.append_nil, List.append_nil]
  exact htree

/-- **No warning is lost, and none comes twice.** -/
theorem warnings_cover (hg : g.Accepted) (hplan : g.plan = .ok plan) :
    plan.warnings.Perm
      ((g.classes.classes.filter g.isEligible).flatMap fun c => (g.fieldMap c).warnings) := by
  obtain ⟨planned, hplanned, -, -, hwarnings⟩ := plan_ok hplan
  have hroots : ∀ root ∈ g.roots, (g.planClass root).warnings.Perm
      ((g.treeOf root).values.flatMap fun c => (g.fieldMap c).warnings) := by
    intro root hroot
    obtain ⟨p, hp, -⟩ := exists_of_mem_roots hplan hroot
    exact warnings_planClass hp
  have hall := List.Perm.flatMap_left g.roots hroots
  rw [← List.flatMap_assoc] at hall
  rw [hwarnings]
  exact hall.trans ((roots_trees_perm hg).flatMap_right _)

/-- The one field to warn of is in a class that two roots hold. -/
theorem warnings_cover_catalog : ∃ plan, catalog.plan = .ok plan ∧
    plan.warnings = [.untypedCollection "a.Catalog.Item" "getTags"] := by
  obtain ⟨plan, hplan⟩ := exists_plan_catalog
  have hwarnings := warnings_cover accepted_catalog hplan
  have hone : (catalog.classes.classes.filter catalog.isEligible).flatMap
      (fun c => (catalog.fieldMap c).warnings) =
        [.untypedCollection "a.Catalog.Item" "getTags"] := by decide
  rw [hone] at hwarnings
  exact ⟨plan, hplan, List.perm_singleton.1 hwarnings⟩

end ClassGraph
end EntityGen
