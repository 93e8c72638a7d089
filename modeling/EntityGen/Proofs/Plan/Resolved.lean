import EntityGen.Plan.Resolved
import EntityGen.Proofs.Graph
import EntityGen.Proofs.Tree

/-! # Trees of classes

Which classes the tree of a class holds (`mem_values_treeOf_iff`), which lie directly below a node
(`children_of_mem_subtrees`), and what resolving the tree gives at each node (`resolveTree_ok`). The
trees of all roots hold each generated class once (`roots_trees_perm`). -/

namespace EntityGen.ClassGraph

variable {g : ClassGraph} {c d : StubClass}

/-! ## Children -/

theorem mem_children_iff (hg : g.Accepted) (hc : c ∈ g.classes.classes) :
    d ∈ g.children c ↔ d ∈ g.classes.classes ∧ d.DirectlyIn c ∧ g.isEligible d = true := by
  rw [children, List.mem_filter, ClassSet.mem_nestedOf_iff hg.wellFormed hc, and_assoc]

theorem children_names_nodup (hg : g.Accepted) (hc : c ∈ g.classes.classes) :
    ((g.children c).map (·.name)).Nodup :=
  (ClassSet.nestedOf_names_nodup hg.wellFormed hc).sublist (List.filter_sublist.map _)

/-! ## Trees -/

/-- Owners come before what lies in them, so a tree of this depth holds all there is. -/
theorem lt_of_mem_children (hg : g.Accepted) (hc : c ∈ g.classes.classes) {n : Nat}
    (hn : g.classes.classes.length ≤ n + 1 + c.id) (hd : d ∈ g.children c) :
    d ∈ g.classes.classes ∧ g.classes.classes.length ≤ n + d.id := by
  obtain ⟨hd, hdc, -⟩ := (mem_children_iff hg hc).1 hd
  have hlt := hdc.later
  exact ⟨hd, by omega⟩

theorem of_mem_treeWithin (hg : g.Accepted) {n : Nat} (hc : c ∈ g.classes.classes)
    (h : d ∈ (g.treeWithin n c).values) :
    d ∈ g.classes.classes ∧ g.classes.LiesIn d c ∧ (d = c ∨ g.isEligible d = true) := by
  induction n generalizing c with
  | zero =>
    rw [treeWithin, Tree.values_node] at h
    rcases List.mem_cons.1 h with rfl | h
    · exact ⟨hc, .refl _, .inl rfl⟩
    · cases h
  | succ n ih =>
    rw [treeWithin, Tree.values_node] at h
    rcases List.mem_cons.1 h with rfl | h
    · exact ⟨hc, .refl _, .inl rfl⟩
    · obtain ⟨t, ht, hd⟩ := List.mem_flatMap.1 h
      obtain ⟨e, he, rfl⟩ := List.mem_map.1 ht
      obtain ⟨hmem, hec, helig⟩ := (mem_children_iff hg hc).1 he
      obtain ⟨h₁, h₂, h₃⟩ := ih hmem hd
      have hstep := (ClassSet.enclosingOf_eq_some_iff hg.wellFormed hmem).2 ⟨hc, hec⟩
      exact ⟨h₁, h₂.trans (.step hstep (.refl c)), .inr (h₃.elim (· ▸ helig) id)⟩

theorem mem_treeWithin (hg : g.Accepted) {n : Nat} (hc : c ∈ g.classes.classes)
    (hn : g.classes.classes.length ≤ n + c.id) (hd : d ∈ g.classes.classes)
    (hdc : g.classes.LiesIn d c) (he : g.isEligible d = true) :
    d ∈ (g.treeWithin n c).values := by
  induction n generalizing c with
  | zero =>
    have hlt := ClassSet.id_lt_length hg.wellFormed hc
    omega
  | succ n ih =>
    rw [treeWithin, Tree.values_node]
    rcases hdc.eq_or_directly with rfl | ⟨b, hb, hdb⟩
    · exact List.mem_cons_self
    · have hmem := hdb.mem hg.wellFormed hd
      obtain ⟨-, hbc⟩ := (ClassSet.enclosingOf_eq_some_iff hg.wellFormed hmem).1 hb
      have hchild : b ∈ g.children c :=
        (mem_children_iff hg hc).2 ⟨hmem, hbc, isEligible_of_liesIn hg hd he hdb⟩
      refine List.mem_cons_of_mem _ (List.mem_flatMap.2 ⟨_, List.mem_map_of_mem hchild, ?_⟩)
      exact ih hmem (lt_of_mem_children hg hc hn hchild).2 hdb

@[simp] theorem value_treeOf (g : ClassGraph) (c : StubClass) : (g.treeOf c).value = c := by
  rw [treeOf]
  cases g.classes.classes.length <;> rfl

/-- The tree of a class holds the class and the generated classes in it. -/
theorem mem_values_treeOf_iff (hg : g.Accepted) (hc : c ∈ g.classes.classes) :
    d ∈ (g.treeOf c).values ↔
      d = c ∨ d ∈ g.classes.classes ∧ g.classes.LiesIn d c ∧ g.isEligible d = true := by
  constructor
  · intro h
    obtain ⟨hd, hdc, he⟩ := of_mem_treeWithin hg hc h
    exact he.imp_right fun he => ⟨hd, hdc, he⟩
  · rintro (rfl | ⟨hd, hdc, he⟩)
    · unfold treeOf
      cases g.classes.classes.length <;> simp [treeWithin]
    · exact mem_treeWithin hg hc (Nat.le_add_right _ _) hd hdc he

/-- Below each node of a tree are the trees of the generated classes directly in its class. -/
theorem children_of_mem_subtrees (hg : g.Accepted) (hc : c ∈ g.classes.classes)
    {s : Tree StubClass} (h : s ∈ (g.treeOf c).subtrees) :
    s.value ∈ g.classes.classes ∧ s.children.map Tree.value = g.children s.value := by
  suffices hmain : ∀ n c, c ∈ g.classes.classes → g.classes.classes.length ≤ n + c.id →
      s ∈ (g.treeWithin n c).subtrees →
      s.value ∈ g.classes.classes ∧ s.children.map Tree.value = g.children s.value from
    hmain _ c hc (Nat.le_add_right _ _) h
  intro n
  induction n with
  | zero =>
    intro c hc hn
    have hlt := ClassSet.id_lt_length hg.wellFormed hc
    omega
  | succ n ih =>
    intro c hc hn hs
    rw [treeWithin, Tree.subtrees_node] at hs
    rcases List.mem_cons.1 hs with rfl | hs
    · refine ⟨hc, ?_⟩
      have hvalue : ∀ d, (g.treeWithin n d).value = d := by cases n <;> intro d <;> rfl
      rw [Tree.children_node, List.map_map, Tree.value_node]
      exact (List.map_congr_left fun d _ => hvalue d).trans (List.map_id _)
    · obtain ⟨t, ht, hs⟩ := List.mem_flatMap.1 hs
      obtain ⟨d, hd, rfl⟩ := List.mem_map.1 ht
      obtain ⟨hmem, hlen⟩ := lt_of_mem_children hg hc hn hd
      exact ih d hmem hlen hs

/-! ## The trees of all roots -/

/-- No class comes twice in a tree. -/
theorem values_treeWithin_nodup (hg : g.Accepted) {n : Nat} (hc : c ∈ g.classes.classes) :
    (g.treeWithin n c).values.Nodup := by
  have hwf := hg.wellFormed
  induction n generalizing c with
  | zero => simp [treeWithin]
  | succ n ih =>
    rw [treeWithin, Tree.values_node, List.flatMap_map, List.nodup_cons, List.nodup_flatMap]
    have hin : ∀ b ∈ g.children c, ∀ d ∈ (g.treeWithin n b).values,
        b ∈ g.classes.classes ∧ b.DirectlyIn c ∧ d ∈ g.classes.classes ∧ g.classes.LiesIn d b := by
      intro b hb d hd
      obtain ⟨hmem, hbc, -⟩ := (mem_children_iff hg hc).1 hb
      obtain ⟨hd, hdb, -⟩ := of_mem_treeWithin hg hmem hd
      exact ⟨hmem, hbc, hd, hdb⟩
    refine ⟨fun h => ?_, fun b hb => ?_, ?_⟩
    · obtain ⟨b, hb, h⟩ := List.mem_flatMap.1 h
      obtain ⟨-, hbc, hd, hcb⟩ := hin b hb c h
      have hle := hcb.id_le hwf hd
      have hlt := hbc.later
      omega
    · exact ih ((mem_children_iff hg hc).1 hb).1
    · -- the trees of different children have nothing in common
      have hchildren : (g.children c).Nodup := .of_map _ (children_names_nodup hg hc)
      refine hchildren.imp_of_mem fun {a b} ha hb hne => ?_
      refine List.disjoint_left.2 ?_
      intro d hda hdb
      obtain ⟨hamem, hac, -, hda⟩ := hin a ha d hda
      obtain ⟨hbmem, hbc, -, hdb⟩ := hin b hb d hdb
      rcases hda.total hdb with hab | hba
      · exact hne (ClassSet.DirectlyIn.eq_of_liesIn hwf hamem hc hac hbc hab)
      · exact hne (ClassSet.DirectlyIn.eq_of_liesIn hwf hbmem hc hbc hac hba).symm

/-- A class in the tree of a root is generated, and this root is its outermost class. -/
theorem of_mem_treeOf_root (hg : g.Accepted) {root : StubClass} (hroot : root ∈ g.roots)
    (hd : d ∈ (g.treeOf root).values) :
    d ∈ g.classes.classes ∧ g.isEligible d = true ∧ g.classes.outermost d = root := by
  obtain ⟨hmem, htop, he⟩ := mem_roots_iff.1 hroot
  have hself := ClassSet.outermost_of_onTop hg.wellFormed hmem htop
  rcases (mem_values_treeOf_iff hg hmem).1 hd with rfl | ⟨hd, hin, he⟩
  · exact ⟨hmem, he, hself⟩
  · exact ⟨hd, he, (ClassSet.outermost_of_liesIn hg.wellFormed hd hin).trans hself⟩

/-- **The trees of the roots hold each generated class once, and nothing else.** -/
theorem roots_trees_perm (hg : g.Accepted) :
    (g.roots.flatMap fun root => (g.treeOf root).values).Perm
      (g.classes.classes.filter g.isEligible) := by
  have hwf := hg.wellFormed
  refine (List.perm_ext_iff_of_nodup ?_ ?_).2 fun d => ?_
  · rw [List.nodup_flatMap]
    refine ⟨fun root hroot => values_treeWithin_nodup hg (mem_roots_iff.1 hroot).1, ?_⟩
    have hroots : g.roots.Nodup :=
      .of_map _ ((roots_pairwise hg).imp fun hlt => NameMap.ne_of_lt hlt)
    refine hroots.imp_of_mem fun {a b} ha hb hne => ?_
    refine List.disjoint_left.2 ?_
    intro d hda hdb
    obtain ⟨-, -, hout⟩ := of_mem_treeOf_root hg ha hda
    obtain ⟨-, -, hout'⟩ := of_mem_treeOf_root hg hb hdb
    exact hne (hout.symm.trans hout')
  · exact (List.Nodup.of_map _ hwf.names).filter _
  · rw [List.mem_flatMap, List.mem_filter]
    constructor
    · rintro ⟨root, hroot, hd⟩
      obtain ⟨hmem, he, -⟩ := of_mem_treeOf_root hg hroot hd
      exact ⟨hmem, he⟩
    · rintro ⟨hd, he⟩
      obtain ⟨hmem, -, hin⟩ := ClassSet.outermost_spec hwf hd
      exact ⟨_, outermost_mem_roots hg hd he,
        (mem_values_treeOf_iff hg hmem).2 (.inr ⟨hd, hin, he⟩)⟩

/-! ## Resolved trees -/

/-- A resolved tree is the tree of the class, each node with the field map of its class. -/
theorem resolveTree_ok {t : Tree ResolvedClass} (h : (g.resolveTree c).result = .ok t) :
    t.map (·.cls) = g.treeOf c ∧ ∀ rc ∈ t.values, (g.fieldMap rc.cls).result = .ok rc.fields := by
  have hresolve : ∀ {d : StubClass} {rc : ResolvedClass}, (g.resolveClass d).result = .ok rc →
      rc.cls = d ∧ (g.fieldMap d).result = .ok rc.fields := by
    intro d rc hrc
    obtain ⟨fields, hfields, hrc⟩ := Diagnosed.result_bind_eq_ok.1 hrc
    cases hrc
    exact ⟨rfl, hfields⟩
  refine ⟨Tree.map_of_mapLastFirst _ (fun d rc hrc => (hresolve hrc).1) h, fun rc hrc => ?_⟩
  obtain ⟨d, -, hd⟩ := Tree.mem_values_of_mapLastFirst h rc hrc
  obtain ⟨rfl, hfields⟩ := hresolve hd
  exact hfields

end EntityGen.ClassGraph
