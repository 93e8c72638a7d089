import EntityGen.Proofs.Plan.Own

/-! # Arrays of classes in scope

An array whose element lies in the outermost class names its type by the last part of the element's
name, whatever the element is; the target table is not asked. That name means something where the
entities at the root and directly below it are in scope (`EntityTree.InScope`).

**What is in scope** (`inner_array_in_scope_iff`): the type of such an array is the entity of its
element exactly if the element is the root, or a generated class directly in it, the name has one
part only, and no other entity in scope has the name. Elements further down, elements that are not
generated and elements without a class have no entity in scope (`note_not_in_scope`). -/

namespace EntityGen

/-! ## Names of one part -/

theorem Name.simple_append_dot (path name : String) :
    Name.simple (path ++ "." ++ name) = Name.simple name := by
  have hdot : Name.isSeparator '.' = true := rfl
  simp only [simple, String.toList_append, List.reverse_append]
  generalize name.toList.reverse = text
  congr 2
  induction text with
  | nil => simp [hdot]
  | cons c text ih =>
    rw [List.cons_append, List.takeWhile_cons, List.takeWhile_cons, ih]

theorem StubClass.DirectlyIn.simple_qualifiedName {c o : StubClass} (h : c.DirectlyIn o) :
    Name.simple c.qualifiedName = Name.simple c.name := by
  rw [h.qualifiedName, Name.simple_append_dot]

theorem StubClass.OnTop.simple_qualifiedName {c : StubClass} (h : c.OnTop) :
    Name.simple c.qualifiedName = Name.simple c.name := by
  rw [h.qualifiedName]
  split
  · rfl
  · rw [Name.simple_append_dot]

namespace EntityTree

/-- The type of an array is in scope at the root: exactly one of the entities at the root and
directly below it has the name, and it is that of the array's elements. -/
def InScope (t : EntityTree) (d : FieldDescriptor) : Prop :=
  ∃ n, (t :: t.children).filter (fun n => some n.value.entityName = d.resolvedType) = [n] ∧
    n.value.stubClass = d.stubType

end EntityTree

/-- The one entry of a key in a list of distinct keys. -/
theorem filter_eq_singleton {α β : Type} [DecidableEq β] {f : α → β} {l : List α}
    (hnd : (l.map f).Nodup) {a : α} (ha : a ∈ l) : l.filter (fun x => f x = f a) = [a] := by
  induction l with
  | nil => cases ha
  | cons b l ih =>
    rw [List.map_cons, List.nodup_cons] at hnd
    rw [List.filter_cons]
    rcases List.mem_cons.1 ha with rfl | ha
    · have hnone : l.filter (fun x => f x = f a) = [] := by
        rw [List.filter_eq_nil_iff]
        intro x hx heq
        exact hnd.1 (List.mem_map.2 ⟨x, hx, of_decide_eq_true heq⟩)
      simp [hnone]
    · have hne : f b ≠ f a := fun heq => hnd.1 (heq ▸ List.mem_map_of_mem ha)
      simp only [hne, decide_false, Bool.false_eq_true, if_false]
      exact ih hnd.2 ha

namespace ClassGraph

variable {g : ClassGraph} {root c : StubClass} {p : PlannedClass} {e : Entity} {field : String}
  {d : FieldDescriptor}

/-! ## Arrays in own entities -/

/-- Only single fields and collections are corrected, so an array in an own entity is one of the
entity's class, and its type is named after the last part of the element's name. -/
theorem inner_array_of_mem_own (hg : g.Accepted) (hroot : root ∈ g.roots)
    (hp : (g.planClass root).result = .ok p) (he : e ∈ Tree.values p.entity.own)
    (hd : e.fields.get? field = some d) (hkind : d.kind = .arrayOfInnerClasses) :
    d.resolvedType = some (Name.simple d.stubType ++ g.config.entitySuffix) ∧
      Name.isWithin d.stubType root.qualifiedName = true := by
  obtain ⟨rc, moves, -, -, hout, hfields, hsame⟩ := exists_of_mem_own hg hroot hp he
  rw [hsame] at hd
  have hagrees : (g.entity (g.correctionsOf root rc) rc).Agrees :=
    agrees_entity rc Stranger.corrections_fields_nodup
  by_cases hk : ∃ k ∈ g.correctionsOf root rc, k.field = field
  · obtain ⟨k, hk, rfl⟩ := hk
    have hsame := Entity.get?_retargetAll_kind moves (g.entity (g.correctionsOf root rc) rc) k.field
    rw [hd, hagrees.get? k hk] at hsame
    have hkind' : d.kind = k.descriptor.kind := Option.some.inj hsame
    rw [hkind] at hkind'
    rcases Stranger.kind_of_mem_corrections hk with h | h <;> rw [h] at hkind' <;> cases hkind'
  · rw [Entity.get?_retargetAll_of_uncorrected fun k hk' hfield => hk ⟨k, hk', hfield⟩] at hd
    have hd := (get?_entity hd).resolve_left hk
    have hspec := (Resolver.rule_of_fieldMap hfields hd).1.innerArray_spec hkind
    rw [hout] at hspec
    exact hspec

/-! ## Entities in scope -/

/-- The entities in scope are those of the root and of the generated classes directly in it, and
strangers. -/
theorem entities_in_scope (hg : g.Accepted) (hroot : root ∈ g.roots)
    (hp : (g.planClass root).result = .ok p) :
    (p.entity.value.entityName = root.name ++ g.config.entitySuffix ∧
        p.entity.value.stubClass = root.qualifiedName) ∧
      ∃ own strangers, p.entity.children = own ++ strangers ∧
        own.map (fun n => (n.value.entityName, n.value.stubClass)) =
          (g.children root).map (fun c => (c.name ++ g.config.entitySuffix, c.qualifiedName)) ∧
        ∀ n ∈ strangers, Name.isWithin n.value.stubClass root.qualifiedName = false := by
  have hmap := map_own (f := fun e => (e.entityName, e.stubClass))
    (v := fun c => (c.name ++ g.config.entitySuffix, c.qualifiedName))
    (fun _ _ _ => rfl) (fun _ _ => rfl) (fun _ _ => rfl) hg hroot hp
  have hvalue := congrArg Tree.value hmap
  rw [Tree.value_map, Tree.value_map, value_treeOf] at hvalue
  have hself : g.treeOf root ∈ (g.treeOf root).subtrees := Tree.mem_subtrees_iff.2 (.inl rfl)
  have hchildren := (children_of_mem_subtrees hg (mem_roots_iff.1 hroot).1 hself).2
  rw [value_treeOf] at hchildren
  have hown := congrArg (fun t => t.children.map Tree.value) hmap
  simp only [Tree.children_map, List.map_map, Function.comp_def, Tree.value_map] at hown
  obtain ⟨-, -, strangers, -, -, hsplit, hstrangers⟩ := own_planClass hg hroot hp
  refine ⟨Prod.mk.inj hvalue, p.entity.own.children, strangers, hsplit, ?_, hstrangers⟩
  rw [hown, ← hchildren, List.map_map]
  rfl

/-- An entity directly below the root is of a class directly in the root, unless it is a stranger.
-/
theorem exists_child_of_mem_scope (hg : g.Accepted) (hroot : root ∈ g.roots)
    (hp : (g.planClass root).result = .ok p) {n : EntityTree} (hn : n ∈ p.entity.children)
    (hin : Name.isWithin n.value.stubClass root.qualifiedName = true) :
    ∃ c ∈ g.children root, n.value.entityName = c.name ++ g.config.entitySuffix ∧
      n.value.stubClass = c.qualifiedName := by
  obtain ⟨-, own, strangers, hsplit, hown, hstrangers⟩ := entities_in_scope hg hroot hp
  rw [hsplit] at hn
  rcases List.mem_append.1 hn with hn | hn
  · have hview := List.mem_map_of_mem
      (f := fun n : EntityTree => (n.value.entityName, n.value.stubClass)) hn
    rw [hown] at hview
    obtain ⟨c, hc, hview⟩ := List.mem_map.1 hview
    obtain ⟨hname, hstub⟩ := Prod.mk.inj hview
    exact ⟨c, hc, hname.symm, hstub.symm⟩
  · rw [hstrangers n hn] at hin
    cases hin

theorem exists_mem_scope_of_child (hg : g.Accepted) (hroot : root ∈ g.roots)
    (hp : (g.planClass root).result = .ok p) (hc : c ∈ g.children root) :
    ∃ n ∈ p.entity.children, n.value.entityName = c.name ++ g.config.entitySuffix ∧
      n.value.stubClass = c.qualifiedName := by
  obtain ⟨-, own, strangers, hsplit, hown, -⟩ := entities_in_scope hg hroot hp
  have hview := List.mem_map_of_mem
    (f := fun c : StubClass => (c.name ++ g.config.entitySuffix, c.qualifiedName)) hc
  rw [← hown] at hview
  obtain ⟨n, hn, hview⟩ := List.mem_map.1 hview
  exact ⟨n, hsplit ▸ List.mem_append_left _ hn, Prod.mk.inj hview⟩

/-! ## Arrays in scope -/

/-- Where the type of an array is in scope, its elements are of the root, and no entity below has
the root's name, or of a generated class directly in the root. -/
theorem element_of_inner_array_in_scope (hg : g.Accepted) (hroot : root ∈ g.roots)
    (hp : (g.planClass root).result = .ok p) (he : e ∈ Tree.values p.entity.own)
    (hd : e.fields.get? field = some d) (hkind : d.kind = .arrayOfInnerClasses)
    (hscope : p.entity.InScope d) :
    (d.stubType = root.qualifiedName ∧ Name.simple root.name = root.name ∧
        root.name ++ g.config.entitySuffix ∉ p.entity.nestedNames) ∨
      ∃ c ∈ g.children root, d.stubType = c.qualifiedName ∧ Name.simple c.name = c.name ∧
        c.name ≠ root.name := by
  obtain ⟨hmem, htop, -⟩ := mem_roots_iff.1 hroot
  obtain ⟨hresolved, hwithin⟩ := inner_array_of_mem_own hg hroot hp he hd hkind
  obtain ⟨⟨hname, hstub⟩, -⟩ := entities_in_scope hg hroot hp
  have hontop := ClassSet.onTop_of_not_isNested hg.wellFormed hmem htop
  have hsuffix : ∀ {a b : String}, a ++ g.config.entitySuffix = b ++ g.config.entitySuffix →
      a = b := (String.append_left_inj g.config.entitySuffix).1
  obtain ⟨n, hn, hn'⟩ := hscope
  simp only [hresolved, Option.some.injEq, List.filter_cons, hname] at hn
  split at hn
  · next heq =>
    -- the root has the name
    obtain ⟨rfl, hnone⟩ := List.cons.inj hn
    have hroot' : d.stubType = root.qualifiedName := hn'.symm.trans hstub
    have hpart := hsuffix (of_decide_eq_true heq)
    rw [hroot', hontop.simple_qualifiedName] at hpart
    refine .inl ⟨hroot', hpart.symm, fun hnested => ?_⟩
    obtain ⟨m, hm, hmname⟩ := List.mem_map.1 hnested
    have hnot := List.filter_eq_nil_iff.1 hnone m hm
    rw [hmname, hroot', hontop.simple_qualifiedName, ← hpart] at hnot
    exact hnot (decide_eq_true rfl)
  · next hne =>
    have hfilter : n ∈ p.entity.children.filter fun m =>
        m.value.entityName = Name.simple d.stubType ++ g.config.entitySuffix := by
      rw [hn]
      exact List.mem_singleton_self n
    obtain ⟨hchild, heq⟩ := List.mem_filter.1 hfilter
    -- the element lies in the root, so its entity is no stranger
    obtain ⟨c, hc, hcname, hcstub⟩ := exists_child_of_mem_scope hg hroot hp hchild (hn' ▸ hwithin)
    obtain ⟨-, hin, -⟩ := (mem_children_iff hg hmem).1 hc
    have helement : d.stubType = c.qualifiedName := hn'.symm.trans hcstub
    have hpart := hsuffix (hcname.symm.trans (of_decide_eq_true heq))
    refine .inr ⟨c, hc, helement, ?_, fun hsame => hne ?_⟩
    · rw [helement, hin.simple_qualifiedName] at hpart
      exact hpart.symm
    · rw [← hsame, hpart]
      exact decide_eq_true rfl

theorem inner_array_of_root_in_scope (hg : g.Accepted) (hroot : root ∈ g.roots)
    (hp : (g.planClass root).result = .ok p) (he : e ∈ Tree.values p.entity.own)
    (hd : e.fields.get? field = some d) (hkind : d.kind = .arrayOfInnerClasses)
    (helement : d.stubType = root.qualifiedName) (hpart : Name.simple root.name = root.name)
    (hfree : root.name ++ g.config.entitySuffix ∉ p.entity.nestedNames) :
    p.entity.InScope d := by
  obtain ⟨hmem, htop, -⟩ := mem_roots_iff.1 hroot
  obtain ⟨hresolved, -⟩ := inner_array_of_mem_own hg hroot hp he hd hkind
  obtain ⟨⟨hname, hstub⟩, -⟩ := entities_in_scope hg hroot hp
  have hontop := ClassSet.onTop_of_not_isNested hg.wellFormed hmem htop
  rw [helement, hontop.simple_qualifiedName, hpart] at hresolved
  have hnone : p.entity.children.filter (fun m =>
      m.value.entityName = root.name ++ g.config.entitySuffix) = [] :=
    List.filter_eq_nil_iff.2 fun m hm heq =>
      hfree (List.mem_map.2 ⟨m, hm, of_decide_eq_true heq⟩)
  refine ⟨p.entity, ?_, hstub.trans helement.symm⟩
  simp [hresolved, hname, hnone]

theorem inner_array_of_child_in_scope (hg : g.Accepted) (hroot : root ∈ g.roots)
    (hp : (g.planClass root).result = .ok p) (he : e ∈ Tree.values p.entity.own)
    (hd : e.fields.get? field = some d) (hkind : d.kind = .arrayOfInnerClasses)
    (hc : c ∈ g.children root) (helement : d.stubType = c.qualifiedName)
    (hpart : Name.simple c.name = c.name) (hne : c.name ≠ root.name) : p.entity.InScope d := by
  obtain ⟨hmem, -, -⟩ := mem_roots_iff.1 hroot
  obtain ⟨hresolved, -⟩ := inner_array_of_mem_own hg hroot hp he hd hkind
  obtain ⟨⟨hname, -⟩, -⟩ := entities_in_scope hg hroot hp
  obtain ⟨-, hin, -⟩ := (mem_children_iff hg hmem).1 hc
  rw [helement, hin.simple_qualifiedName, hpart] at hresolved
  obtain ⟨n, hchild, hnname, hnstub⟩ := exists_mem_scope_of_child hg hroot hp hc
  have hnames := (embedding_planClass hg hroot hp).names _ (Tree.mem_subtrees_iff.2 (.inl rfl))
  refine ⟨n, ?_, hnstub.trans helement.symm⟩
  simp only [hresolved, Option.some.injEq, List.filter_cons, hname]
  rw [if_neg fun heq => hne ?_, ← hnname]
  · exact filter_eq_singleton hnames hchild
  · exact ((String.append_left_inj _).1 (of_decide_eq_true heq)).symm

/-- **What is in scope.** The type of an array whose element lies in the outermost class is the
element's entity exactly if the element is the root or a generated class directly in it, has a name
of one part, and shares this name with no other entity in scope. -/
theorem inner_array_in_scope_iff (hg : g.Accepted) (hroot : root ∈ g.roots)
    (hp : (g.planClass root).result = .ok p) (he : e ∈ Tree.values p.entity.own)
    (hd : e.fields.get? field = some d) (hkind : d.kind = .arrayOfInnerClasses) :
    p.entity.InScope d ↔
      (d.stubType = root.qualifiedName ∧ Name.simple root.name = root.name ∧
        root.name ++ g.config.entitySuffix ∉ p.entity.nestedNames) ∨
      ∃ c ∈ g.children root, d.stubType = c.qualifiedName ∧ Name.simple c.name = c.name ∧
        c.name ≠ root.name := by
  constructor
  · exact element_of_inner_array_in_scope hg hroot hp he hd hkind
  · rintro (⟨helement, hpart, hfree⟩ | ⟨c, hc, helement, hpart, hne⟩)
    · exact inner_array_of_root_in_scope hg hroot hp he hd hkind helement hpart hfree
    · exact inner_array_of_child_in_scope hg hroot hp he hd hkind hc helement hpart hne

/-! ## An array of a forbidden class -/

/-- `a.Archive` has an array of type `returns`, the class `Folder` in it and the forbidden class
`NoteImpl`. -/
def shelves (returns : String) : ClassGraph :=
  let text : MethodDef := ⟨"getText", [], "java.lang.String"⟩
  build ⟨ClassDef.layoutAll none 0
    [⟨"a", "Archive", false, none, [], [⟨"getShelf", [], returns⟩],
      [⟨"", "NoteImpl", false, none, [], [text], []⟩,
        ⟨"", "Folder", false, none, [], [text], []⟩]⟩]⟩ {}

/-- Arrays of both classes inside. -/
def shelfTypes : List String := ["a.Archive$Folder[]", "a.Archive$NoteImpl[]"]

theorem shelves_spec : ∀ returns ∈ shelfTypes, (shelves returns).Accepted ∧
    (∃ plan, (shelves returns).plan = .ok plan) ∧
    ∃ root ∈ (shelves returns).roots, ∃ p, ((shelves returns).planClass root).result = .ok p ∧
      ∃ e ∈ Tree.values p.entity.own, ∃ d, e.fields.get? "shelf" = some d ∧
        d.kind = .arrayOfInnerClasses ∧ TypeName.arrayElement? (Name.dotted returns) = d.stubType ∧
        root.qualifiedName = "a.Archive" ∧ root.name = "Archive" ∧
        (shelves returns).children root = (shelves returns).classes.classes.filter fun c =>
          c.qualifiedName = "a.Archive.Folder" := by
  intro returns hreturns
  have hfault : ∀ returns ∈ shelfTypes,
      firstFault? [] (shelves returns).classes.classes = none := by decide
  have hg : (shelves returns).Accepted :=
    accepted_of_fault?_eq_none (hfault returns hreturns) (by decide)
  have hok : ∀ returns ∈ shelfTypes, ∀ c ∈ (shelves returns).classes.classes,
      ((shelves returns).planClass c).result.isOk = true := by decide
  have hshelf : ∀ returns ∈ shelfTypes, ∃ root ∈ (shelves returns).classes.classes,
      (root.isNested = false ∧ (shelves returns).isEligible root = true) ∧
      ((((shelves returns).planClass root).result.toOption.map fun p =>
        (p.entity.own.value.fields.get? "shelf").map fun d => (d.kind, some d.stubType)) =
          some (some (.arrayOfInnerClasses, TypeName.arrayElement? (Name.dotted returns)))) ∧
      root.qualifiedName = "a.Archive" ∧ root.name = "Archive" ∧
      (shelves returns).children root = (shelves returns).classes.classes.filter fun c =>
        c.qualifiedName = "a.Archive.Folder" := by decide
  obtain ⟨root, hmem, htop, hfield, hrest⟩ := hshelf returns hreturns
  obtain ⟨p, hp, hfield⟩ := Diagnosed.exists_of_toOption hfield
  obtain ⟨d, hd, hfield⟩ := Option.map_eq_some_iff.1 hfield
  obtain ⟨hkind, helement⟩ := Prod.mk.inj hfield
  exact ⟨hg, exists_plan_of_isOk (hok returns hreturns), root, mem_roots_iff.2 ⟨hmem, htop⟩, p, hp,
    _, Tree.value_mem_values _, d, hd, hkind, helement.symm, hrest⟩

/-- The array of the class directly inside is in scope. -/
theorem folder_in_scope : ∃ root ∈ (shelves "a.Archive$Folder[]").roots,
    ∃ p, ((shelves "a.Archive$Folder[]").planClass root).result = .ok p ∧
      ∃ e ∈ Tree.values p.entity.own, ∃ d, e.fields.get? "shelf" = some d ∧
        d.kind = .arrayOfInnerClasses ∧ p.entity.InScope d := by
  obtain ⟨hg, -, root, hroot, p, hp, e, he, d, hd, hkind, helement, -, hname, hchildren⟩ :=
    shelves_spec "a.Archive$Folder[]" (by decide)
  refine ⟨root, hroot, p, hp, e, he, d, hd, hkind,
    (inner_array_in_scope_iff hg hroot hp he hd hkind).2 (.inr ?_)⟩
  have hfolder : ∃ c ∈ (shelves "a.Archive$Folder[]").classes.classes.filter fun c =>
        c.qualifiedName = "a.Archive.Folder",
      TypeName.arrayElement? (Name.dotted "a.Archive$Folder[]") = some c.qualifiedName ∧
        Name.simple c.name = c.name ∧ c.name ≠ "Archive" := by decide
  rw [hchildren, hname]
  obtain ⟨c, hc, hsame, hc'⟩ := hfolder
  exact ⟨c, hc, Option.some.inj (helement.symm.trans hsame), hc'⟩

/-- The array of the forbidden class is planned, and nothing in scope is of its type. -/
theorem note_not_in_scope : (shelves "a.Archive$NoteImpl[]").Accepted ∧
    (∃ plan, (shelves "a.Archive$NoteImpl[]").plan = .ok plan) ∧
    ∃ root ∈ (shelves "a.Archive$NoteImpl[]").roots,
      ∃ p, ((shelves "a.Archive$NoteImpl[]").planClass root).result = .ok p ∧
        ∃ e ∈ Tree.values p.entity.own, ∃ d, e.fields.get? "shelf" = some d ∧
          d.kind = .arrayOfInnerClasses ∧ ¬ p.entity.InScope d := by
  obtain ⟨hg, hplan, root, hroot, p, hp, e, he, d, hd, hkind, helement, hroot', -, hchildren⟩ :=
    shelves_spec "a.Archive$NoteImpl[]" (by decide)
  have hnote : TypeName.arrayElement? (Name.dotted "a.Archive$NoteImpl[]") =
      some "a.Archive.NoteImpl" := by decide
  have hstub : d.stubType = "a.Archive.NoteImpl" := Option.some.inj (helement.symm.trans hnote)
  refine ⟨hg, hplan, root, hroot, p, hp, e, he, d, hd, hkind, fun hscope => ?_⟩
  rcases element_of_inner_array_in_scope hg hroot hp he hd hkind hscope with
    ⟨hsame, -⟩ | ⟨c, hc, hsame, -⟩
  · rw [hstub, hroot'] at hsame
    exact absurd hsame (by decide)
  · rw [hchildren] at hc
    rw [hstub, of_decide_eq_true (List.mem_filter.1 hc).2] at hsame
    exact absurd hsame (by decide)

end ClassGraph
end EntityGen
