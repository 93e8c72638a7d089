import EntityGen.Graph
import EntityGen.Proofs.ClassSet
import EntityGen.Proofs.NameMap

/-! # Class graphs of accepted models

`ClassGraph.Accepted`: the graph of a class set that was accepted and a configuration without
fault. For such a graph:

* `isEligible_iff`: a class is generated if no class that it lies in has a forbidden name.
* `targets_get?_of_eligible`, `exists_of_targets_get?`: the target table has the entities of the
  generated classes and no others.
* `mem_roots_iff`, `roots_pairwise`: the roots are the generated top-level classes in strictly
  increasing order of their names. -/

namespace EntityGen

theorem Config.isForbidden_iff {config : Config} {name : String} :
    config.isForbidden name = true ↔
      ∃ suffix ∈ config.forbiddenSuffixes, suffix.toList <:+ name.toList := by
  simp only [isForbidden, List.any_eq_true, Text.endsWith, Option.isSome_iff_exists,
    Text.stripEnd?_eq_some_iff]
  exact exists_congr fun suffix => and_congr_right fun _ => exists_congr fun _ => eq_comm

namespace ClassGraph

/-- The graph of an accepted class set and a configuration without fault. -/
def Accepted (g : ClassGraph) : Prop :=
  ∃ defs classes config, ClassSet.ofDefs defs = .ok classes ∧ make classes config = .ok g

variable {g : ClassGraph} {c a : StubClass}

theorem eq_build_of_make {classes : ClassSet} {config : Config} (h : make classes config = .ok g) :
    g = build classes config := by
  unfold make at h
  cases hv : config.validate with
  | error e => rw [hv] at h; cases h
  | ok u => rw [hv] at h; cases h; rfl

/-- A model without fault and a configuration without fault have a graph. -/
theorem accepted_of_fault?_eq_none {defs : List ClassDef} {config : Config}
    (hdefs : firstFault? [] (ClassDef.layoutAll none 0 defs) = none)
    (hconfig : config.fault? = none) :
    (build ⟨ClassDef.layoutAll none 0 defs⟩ config).Accepted := by
  refine ⟨defs, ⟨ClassDef.layoutAll none 0 defs⟩, config, ?_, ?_⟩
  · exact ClassSet.ofDefs_eq_ok_iff.2 ⟨hdefs, rfl⟩
  · unfold make Config.validate
    rw [hconfig]
    rfl

namespace Accepted

theorem wellFormed (hg : g.Accepted) : g.classes.WellFormed := by
  obtain ⟨defs, classes, config, hset, hmake⟩ := hg
  rw [eq_build_of_make hmake]
  exact ClassSet.ofDefs_wellFormed hset

theorem eq_build (hg : g.Accepted) : g = build g.classes g.config := by
  obtain ⟨defs, classes, config, -, hmake⟩ := hg
  rw [eq_build_of_make hmake]
  rfl

theorem config_fault?_eq_none (hg : g.Accepted) : g.config.fault? = none := by
  obtain ⟨defs, classes, config, -, hmake⟩ := hg
  rw [eq_build_of_make hmake]
  unfold make Config.validate at hmake
  cases hfault : config.fault? with
  | none => exact hfault
  | some fault =>
    rw [hfault] at hmake
    cases hmake

/-- The names of entities end with something. -/
theorem entitySuffix_ne (hg : g.Accepted) : g.config.entitySuffix ≠ "" := by
  intro hempty
  have hfault := hg.config_fault?_eq_none
  unfold Config.fault? at hfault
  rw [hempty] at hfault
  repeat' split at hfault
  all_goals simp_all

end Accepted

/-! ## Generated classes -/

theorem isEligible_iff (hg : g.Accepted) (hc : c ∈ g.classes.classes) :
    g.isEligible c = true ↔ ∀ a, g.classes.LiesIn c a → g.config.isForbidden a.name = false := by
  simp only [isEligible, ClassSet.isEligible, List.all_eq_true, Bool.not_eq_true',
    ClassSet.mem_owners_iff hg.wellFormed hc]

/-- The classes around a generated class are generated too. -/
theorem isEligible_of_liesIn (hg : g.Accepted) (hc : c ∈ g.classes.classes)
    (he : g.isEligible c = true) (ha : g.classes.LiesIn c a) : g.isEligible a = true :=
  (isEligible_iff hg (ha.mem hg.wellFormed hc)).2 fun _ hb =>
    (isEligible_iff hg hc).1 he _ (ha.trans hb)

/-! ## Target table -/

/-- The classes of a table, each with its name in it. -/
theorem names_nodup (hg : g.Accepted) (suffix : String) :
    (((g.classes.classes.filter g.isEligible).map fun c =>
      (c.qualifiedName, Name.suffixed c.binaryName suffix)).map (·.1)).Nodup := by
  rw [List.map_map]
  exact hg.wellFormed.names.sublist ((List.filter_sublist).map _)

theorem byStub_eq (hg : g.Accepted) : g.targets.byStub = NameMap.ofList
    ((g.classes.classes.filter g.isEligible).map fun c =>
      (c.qualifiedName, Name.suffixed c.binaryName g.config.entitySuffix)) :=
  congrArg (·.targets.byStub) hg.eq_build

theorem byStub_get?_eq_some_iff (hg : g.Accepted) {stub target : String} :
    g.targets.byStub.get? stub = some target ↔
      ∃ c ∈ g.classes.classes, g.isEligible c = true ∧ c.qualifiedName = stub ∧
        Name.suffixed c.binaryName g.config.entitySuffix = target := by
  rw [byStub_eq hg, NameMap.get?_ofList_eq_some_iff (names_nodup hg _)]
  simp only [List.mem_map, List.mem_filter, Prod.mk.injEq, and_assoc]

/-- A generated class has its entity in the table. -/
theorem targets_get?_of_eligible (hg : g.Accepted) (hc : c ∈ g.classes.classes)
    (he : g.isEligible c = true) :
    g.targets.get? c.qualifiedName = some (Name.suffixed c.binaryName g.config.entitySuffix) := by
  rw [TargetTable.get?, (byStub_get?_eq_some_iff hg).2 ⟨c, hc, he, rfl, rfl⟩]
  rfl

/-- What the table knows is the entity of a generated class, which it knows by its name. -/
theorem exists_of_targets_get? (hg : g.Accepted) {stub target : String}
    (h : g.targets.get? stub = some target) :
    ∃ c ∈ g.classes.classes, g.isEligible c = true ∧
      g.targets.get? c.qualifiedName = some target ∧
      (c.qualifiedName = stub ∨ c.qualifiedName = Name.dotted stub) := by
  rw [TargetTable.get?, Option.or_eq_some_iff] at h
  rcases h with h | ⟨-, h⟩
  · obtain ⟨c, hc, he, hname, rfl⟩ := (byStub_get?_eq_some_iff hg).1 h
    exact ⟨c, hc, he, targets_get?_of_eligible hg hc he, .inl hname⟩
  · obtain ⟨c, hc, he, hname, rfl⟩ := (byStub_get?_eq_some_iff hg).1 h
    exact ⟨c, hc, he, targets_get?_of_eligible hg hc he, .inr hname⟩

/-! ## Roots -/

theorem mem_roots_iff :
    c ∈ g.roots ↔ c ∈ g.classes.classes ∧ c.isNested = false ∧ g.isEligible c = true := by
  rw [roots, List.mem_mergeSort, List.mem_filter, ClassSet.topLevel, List.mem_filter, and_assoc,
    Bool.not_eq_true']

theorem roots_pairwise (hg : g.Accepted) :
    (g.roots.map (·.qualifiedName)).Pairwise (· < ·) := by
  have hnodup : (g.roots.map (·.qualifiedName)).Nodup := by
    refine ((List.mergeSort_perm _ _).map _).nodup_iff.2 (hg.wellFormed.names.sublist ?_)
    exact (List.filter_sublist.trans List.filter_sublist).map _
  have hle : g.roots.Pairwise fun a b => a.qualifiedName ≤ b.qualifiedName := by
    refine (List.pairwise_mergeSort (fun a b c hab hbc => ?_) (fun a b => ?_) _).imp ?_
    · simp only [decide_eq_true_eq] at hab hbc ⊢
      exact String.le_trans hab hbc
    · simpa using String.le_total a.qualifiedName b.qualifiedName
    · intro a b hab
      simpa using hab
  refine ((List.pairwise_map.2 hle).and hnodup).imp fun {a b} hab => ?_
  exact String.not_le.1 fun hba => hab.2 (String.le_antisymm hab.1 hba)

/-- Generated top-level classes that are in order are the roots. -/
theorem roots_eq {classes : List StubClass}
    (h : g.classes.topLevel.filter g.isEligible = classes)
    (hsorted : classes.Pairwise fun a b => a.qualifiedName ≤ b.qualifiedName) :
    g.roots = classes := by
  rw [roots, h]
  exact List.mergeSort_of_pairwise (hsorted.imp fun h => decide_eq_true h)

/-- The outermost class of a generated class is a root. -/
theorem outermost_mem_roots (hg : g.Accepted) (hc : c ∈ g.classes.classes)
    (he : g.isEligible c = true) : g.classes.outermost c ∈ g.roots := by
  obtain ⟨hmem, htop, hin⟩ := ClassSet.outermost_spec hg.wellFormed hc
  exact mem_roots_iff.2 ⟨hmem, htop, isEligible_of_liesIn hg hc he hin⟩

end ClassGraph
end EntityGen
