import EntityGen.Proofs.Plan.Basic

/-! # Where planned types are declared

**Strangers have their place** (`strangers_in_place`): in a planned entity the names directly below
each node differ, and a corrected field has the type of the one entity embedded for it.

**No reference dangles** (`references_declared`): the types of known fields and the superclasses of
all planned entities are declared by planned entities, array fields of classes in scope apart. A
type in the target table is declared by the root that its class lies in (`declared_of_target`). -/

namespace EntityGen.ClassGraph

variable {g : ClassGraph} {root c : StubClass} {p : PlannedClass} {plan : Plan}

/-! ## Strangers -/

theorem strangers_in_place (hg : g.Accepted) (hroot : root ∈ g.roots)
    (hp : (g.planClass root).result = .ok p) :
    (∀ t ∈ p.entity.subtrees, (t.children.map (·.value.entityName)).Nodup) ∧
      ∀ e ∈ p.entity.values, ∀ k ∈ e.corrections,
        e.fields.get? k.field = some k.descriptor ∧
          ∀ c, g.classes.find? k.stubType = some c →
            ∃ n, p.entity.children.filter (·.value.stubClass = k.stubType) = [n] ∧
              k.descriptor.resolvedType = some n.value.targetName ∧
              n.value.constructors.contains k.stubType = true := by
  have h := embedding_planClass hg hroot hp
  refine ⟨h.names, fun e he k hk => ⟨(h.sound e he).agrees.get? k hk, fun c hc => ?_⟩⟩
  have hclass : g.classes.find? k.stubType ≠ none := by rw [hc]; exact Option.some_ne_none c
  exact h.hasPlaceOf (EntityTree.mem_corrections_iff.2 ⟨e, he, hk⟩) hclass

/-- Two strangers of one simple name in a class that has a nested class of this name too. -/
def namesakes : ClassGraph :=
  let note : ClassDef :=
    ⟨"", "Note", false, none, [], [⟨"getText", [], "java.lang.String"⟩], []⟩
  build ⟨ClassDef.layoutAll none 0
    [⟨"a", "Candidate", false, none, [], [], [note]⟩,
      ⟨"a", "Offer", false, none, [], [⟨"getCandidateNote", [], "a.Candidate$Note"⟩,
        ⟨"getPersonNotes", [], "java.util.List<a.Person$Note>"⟩], [note]⟩,
      ⟨"a", "Person", false, none, [], [], [note]⟩]⟩ {}

theorem accepted_namesakes : namesakes.Accepted :=
  accepted_of_fault?_eq_none (by decide +kernel) (by decide +kernel)

theorem roots_namesakes :
    namesakes.roots = namesakes.classes.classes.filter (!·.isNested) :=
  roots_eq (by decide +kernel) (by decide +kernel)

theorem isOk_planClass_namesakes :
    ∀ root ∈ namesakes.roots, (namesakes.planClass root).result.isOk = true := by
  rw [roots_namesakes]
  decide +kernel

/-- The notes of a candidate and of a person are embedded in an offer. -/
theorem corrections_namesakes :
    ∃ root ∈ namesakes.roots, ((namesakes.planClass root).result.toOption.map fun p =>
      (p.entity.nestedNames, p.entity.value.corrections.map fun k => (k.field, k.stubType))) =
      some (["NoteJPA", "CandidateNoteJPA", "PersonNoteJPA"],
        [("candidateNote", "a.Candidate.Note"), ("personNotes", "a.Person.Note")]) := by
  rw [roots_namesakes]
  decide +kernel

/-- Their entities are known. -/
theorem known_namesakes :
    ∃ root ∈ namesakes.roots, ((namesakes.planClass root).result.toOption.map fun p =>
      p.entity.value.corrections.map fun k =>
        (k.field, k.descriptor.kind, k.descriptor.isKnownEntity)) =
      some [("candidateNote", .innerClass, true), ("personNotes", .collection, true)] := by
  rw [roots_namesakes]
  decide +kernel

theorem strangers_in_place_namesakes :
    ∃ root ∈ namesakes.roots, ∃ p, (namesakes.planClass root).result = .ok p ∧
      p.entity.nestedNames = ["NoteJPA", "CandidateNoteJPA", "PersonNoteJPA"] ∧
      ∃ k ∈ p.entity.value.corrections, k.field = "personNotes" ∧
        ∃ n ∈ p.entity.children, n.value.stubClass = "a.Person.Note" ∧
          k.descriptor.resolvedType = some n.value.targetName := by
  obtain ⟨root, hroot, h⟩ := corrections_namesakes
  obtain ⟨p, hp, h⟩ := Diagnosed.exists_of_toOption h
  obtain ⟨hnames, hcorrections⟩ := Prod.mk.inj h
  have hk := List.mem_of_getElem? (i := 1) (congrArg (·[1]?) hcorrections)
  obtain ⟨k, hk, h⟩ := List.mem_map.1 hk
  simp only [Prod.mk.injEq] at h
  obtain ⟨hfield, hstub⟩ := h
  have hclass : (namesakes.classes.find? k.stubType).isSome = true := by
    rw [hstub]
    decide +kernel
  obtain ⟨c, hc⟩ := Option.isSome_iff_exists.1 hclass
  have hplace := (strangers_in_place accepted_namesakes hroot hp).2 _ p.entity.value_mem_values k hk
  obtain ⟨n, hn, hname, hresolved⟩ := EntityTree.HasPlaceOf.exists_mem (hplace.2 c hc)
  exact ⟨root, hroot, p, hp, hnames, k, hk, hfield, n, hn, hname.trans hstub, hresolved⟩

/-! ## References -/

theorem mem_values_of_mem_treeOf {t : Tree ResolvedClass} (h : (g.resolveTree root).result = .ok t)
    (hc : c ∈ (g.treeOf root).values) : ∃ rc ∈ t.values, rc.cls = c := by
  rw [← (resolveTree_ok h).1, Tree.values_map] at hc
  exact List.mem_map.1 hc

/-- Each class of a tree has its entity among those of the tree. -/
theorem exists_mem_ownEntities {t : Tree ResolvedClass} {rc : ResolvedClass} (hrc : rc ∈ t.values) :
    ∃ e ∈ (g.ownEntities root t).values, e.stubClass = rc.cls.qualifiedName ∧
      e.targetName = (g.entity [] rc).targetName := by
  rcases Tree.mem_values_iff.1 hrc with rfl | ⟨t', ht', hrc⟩
  · exact ⟨_, mem_values_ownEntities_iff.2 (.inl rfl), rfl, rfl⟩
  · exact ⟨_, mem_values_ownEntities_iff.2 (.inr ⟨t', ht', rc, hrc, rfl⟩), rfl, rfl⟩

/-- A generated class has its entity among those planned for its outermost class. -/
theorem exists_mem_planClass (hg : g.Accepted) (hc : c ∈ g.classes.classes)
    (he : g.isEligible c = true) (hp : (g.planClass (g.classes.outermost c)).result = .ok p) :
    ∃ e ∈ p.entity.values, e.stubClass = c.qualifiedName ∧
      g.targets.get? c.qualifiedName = some e.targetName := by
  obtain ⟨hmem, -, hin⟩ := ClassSet.outermost_spec hg.wellFormed hc
  obtain ⟨t, ht, hentity, -⟩ := planClass_ok hp
  have htree := (mem_values_treeOf_iff hg hmem).2 (.inr ⟨hc, hin, he⟩)
  obtain ⟨rc, hrc, rfl⟩ := mem_values_of_mem_treeOf ht htree
  obtain ⟨e, he', hstub, htarget⟩ := exists_mem_ownEntities hrc
  obtain ⟨-, hkeep⟩ := keep_of_entityTree (f := fun e => (e.stubClass, e.targetName))
    (fun _ _ _ => rfl) hentity
  obtain ⟨e', he', hsame⟩ := hkeep e he'
  obtain ⟨hstub', htarget'⟩ := Prod.mk.inj hsame
  refine ⟨e', he', hstub'.trans hstub, ?_⟩
  rw [htarget', htarget, entity, targets_get?_of_eligible hg hc he]
  rfl

/-- What the target table has is declared in the plan. -/
theorem declared_of_target (hg : g.Accepted) (hplan : g.plan = .ok plan) {stub target : String}
    (h : g.targets.get? stub = some target) :
    ∃ t ∈ plan.entities, ∃ e ∈ t.values, e.targetName = target := by
  obtain ⟨c, hc, he, htarget, -⟩ := exists_of_targets_get? hg h
  have hroot := outermost_mem_roots hg hc he
  obtain ⟨p, hp, hmem, -⟩ := exists_of_mem_roots hplan hroot
  obtain ⟨e, he', -, htarget'⟩ := exists_mem_planClass hg hc he hp
  rw [htarget] at htarget'
  exact ⟨p.entity, hmem, e, he', (Option.some.inj htarget').symm⟩

/-- What the target table has a class for is a class of the set. -/
theorem find?_ne_none_of_target (hg : g.Accepted) {stub : String}
    (h : g.targets.contains stub = true) : g.classes.find? stub ≠ none := by
  obtain ⟨target, ht⟩ := Option.isSome_iff_exists.1 h
  obtain ⟨c, hc, -, -, hname⟩ := exists_of_targets_get? hg ht
  intro hnone
  rw [ClassSet.find?, Option.or_eq_none_iff] at hnone
  have hfind : ∀ name, c.qualifiedName = name → g.classes.findQualified? name ≠ none := by
    intro name hname hnone
    rw [(ClassSet.findQualified?_eq_some_iff hg.wellFormed).2 ⟨hc, hname⟩] at hnone
    cases hnone
  exact hname.elim (fun hname => hfind _ hname hnone.1) fun hname => hfind _ hname hnone.2

theorem references_declared (hg : g.Accepted) (hplan : g.plan = .ok plan) :
    ∀ t ∈ plan.entities, ∀ e ∈ t.values,
      (∀ field d, e.fields.get? field = some d → d.isKnownEntity = true →
        d.kind ≠ .arrayOfInnerClasses →
        ∃ t' ∈ plan.entities, ∃ e' ∈ t'.values, d.resolvedType = some e'.targetName) ∧
      (e.superclass = TypeName.object ∨
        ∃ t' ∈ plan.entities, ∃ e' ∈ t'.values, e.superclass = e'.targetName) := by
  intro t ht e he
  obtain ⟨root, hroot, p, hp, rfl⟩ := (exists_root_of_mem_plan hplan).1 t ht
  have h := embedding_planClass hg hroot hp
  refine ⟨fun field d hd hknown hkind => ?_, ?_⟩
  · rcases (h.sound e he).sourced field d hd with ⟨k, hk, rfl⟩ | ⟨r, hr, hrule⟩
    · -- a corrected field: its type is embedded in this very entity
      rw [(h.sound e he).agrees.get? k hk] at hd
      cases hd
      have hclass := find?_ne_none_of_target hg ((h.sound e he).known k hk hknown)
      have hplace := h.hasPlaceOf (EntityTree.mem_corrections_iff.2 ⟨e, he, hk⟩) hclass
      obtain ⟨n, hn, -, hresolved⟩ := hplace.exists_mem
      have hvalue := Tree.mem_values_iff.2 (.inr ⟨n, hn, n.value_mem_values⟩)
      exact ⟨p.entity, ht, n.value, hvalue, hresolved⟩
    · obtain ⟨target, htarget, hresolved⟩ := hrule.resolvedType_of_known hknown hkind
      rw [hr] at htarget
      obtain ⟨t', ht', e', he', rfl⟩ := declared_of_target hg hplan htarget
      exact ⟨t', ht', e', he', hresolved⟩
  · rcases (h.sound e he).superclass with hobject | ⟨stub, hstub⟩
    · exact .inl hobject
    · obtain ⟨t', ht', e', he', htarget⟩ := declared_of_target hg hplan hstub
      exact .inr ⟨t', ht', e', he', htarget.symm⟩

theorem references_declared_namesakes :
    ∃ plan, namesakes.plan = .ok plan ∧ ∃ t ∈ plan.entities, ∃ e ∈ t.values, ∃ d,
      e.fields.get? "candidateNote" = some d ∧ d.isKnownEntity = true ∧ d.kind = .innerClass ∧
        ∃ t' ∈ plan.entities, ∃ e' ∈ t'.values, d.resolvedType = some e'.targetName := by
  obtain ⟨root, hroot, h⟩ := known_namesakes
  obtain ⟨plan, hplan⟩ := exists_plan fun root hroot =>
    Diagnosed.exists_of_isOk (isOk_planClass_namesakes root hroot)
  obtain ⟨p, hp, h⟩ := Diagnosed.exists_of_toOption h
  have hk := List.mem_of_getElem? (i := 0) (congrArg (·[0]?) h)
  obtain ⟨k, hk, h⟩ := List.mem_map.1 hk
  simp only [Prod.mk.injEq] at h
  obtain ⟨hfield, hkind, hknown⟩ := h
  have hmem := mem_entities_of_planClass hplan hroot hp
  have hsound := (embedding_planClass accepted_namesakes hroot hp).sound _ p.entity.value_mem_values
  have hd := hfield ▸ hsound.agrees.get? k hk
  have hdeclared := (references_declared accepted_namesakes hplan _ hmem _
    p.entity.value_mem_values).1 _ _ hd hknown (by rw [hkind]; decide)
  exact ⟨plan, hplan, _, hmem, _, p.entity.value_mem_values, _, hd, hknown, hkind, hdeclared⟩

end EntityGen.ClassGraph
