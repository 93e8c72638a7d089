import EntityGen.Proofs.Plan.References

/-! # Forbidden classes in plans

A class is forbidden if its name or that of a class around it ends with a forbidden suffix
(`ClassGraph.Forbidden`). Tables, roots and trees leave forbidden classes out, so own entities and
field interfaces are of generated classes; an embedded stranger's class is looked up by its name
alone, so every stranger that has a class gets in (`stranger_planned`).

**What gets in** (`no_forbidden_planned_iff`): a plan is free of forbidden classes exactly if no
generated class has a collection of elements that are forbidden, nested in another root and without
identity. -/

namespace EntityGen.ClassGraph

variable {g : ClassGraph} {root c : StubClass} {p : PlannedClass} {plan : Plan} {e : Entity}

/-- A name is forbidden if it is that of a class whose own name, or that of a class around it, ends
with a forbidden suffix. -/
def Forbidden (g : ClassGraph) (name : String) : Prop :=
  ∃ c ∈ g.classes.classes, c.qualifiedName = name ∧ ∃ a, g.classes.LiesIn c a ∧
    ∃ suffix ∈ g.config.forbiddenSuffixes, suffix.toList <:+ a.name.toList

theorem forbidden_iff (hg : g.Accepted) (hc : c ∈ g.classes.classes) :
    g.Forbidden c.qualifiedName ↔ g.isEligible c = false := by
  rw [← Bool.not_eq_true, isEligible_iff hg hc]
  push Not
  constructor
  · rintro ⟨c', hc', hname, a, ha, hsuffix⟩
    cases ClassSet.eq_of_qualifiedName_eq hg.wellFormed hc' hc hname
    exact ⟨a, ha, by simpa using Config.isForbidden_iff.2 hsuffix⟩
  · rintro ⟨a, ha, hforbidden⟩
    exact ⟨c, hc, rfl, a, ha, Config.isForbidden_iff.1 (by simpa using hforbidden)⟩

/-! ## Where the classes of a plan come from -/

theorem stubClass_of_mem_fieldsTree {embedded : Bool} {t : Tree ResolvedClass} {f : FieldsInterface}
    (hf : f ∈ (g.fieldsTree embedded t).values) :
    ∃ rc ∈ t.values, f.stubClass = rc.cls.qualifiedName := by
  obtain ⟨rc, hrc, nested, heq⟩ := exists_of_mem_fieldsTree hf
  exact ⟨rc, hrc, congrArg FieldsInterface.stubClass heq⟩

theorem not_forbidden_of_mem_fields (hg : g.Accepted) (hroot : root ∈ g.roots)
    (hp : (g.planClass root).result = .ok p) {f : FieldsInterface} (hf : f ∈ p.fields.values) :
    ¬ g.Forbidden f.stubClass := by
  obtain ⟨t, ht, -, hfields⟩ := planClass_ok hp
  rw [hfields] at hf
  obtain ⟨rc, hrc, hname⟩ := stubClass_of_mem_fieldsTree hf
  obtain ⟨hc, he, -⟩ := generated_of_resolveTree hg hroot ht hrc
  rw [hname, forbidden_iff hg hc, he]
  decide

/-- A planned entity is that of a generated class, or of the class of a stranger among the fields of
a generated class. -/
theorem origin_of_mem_entities (hg : g.Accepted) (hroot : root ∈ g.roots)
    (hp : (g.planClass root).result = .ok p) (he : e ∈ p.entity.values) :
    (∃ c ∈ g.classes.classes, g.isEligible c = true ∧ e.stubClass = c.qualifiedName) ∨
      ∃ c ∈ g.classes.classes, g.isEligible c = true ∧ ∃ fields,
        (g.fieldMap c).result = .ok fields ∧ ∃ field d, fields.get? field = some d ∧
          Stranger.isStranger (g.classes.outermost c).qualifiedName d = true ∧
          ∃ s, g.classes.find? d.stubType = some s ∧ e.stubClass = s.qualifiedName := by
  obtain ⟨t, ht, hentity, -⟩ := planClass_root_ok hg hroot hp
  rcases (origin_of_embedStrangers hentity).1 e he with
    ⟨e₀, he₀, hname⟩ | ⟨⟨stubType, target⟩, hpending, s, resolved, hs, hr, rc, hrc, hname⟩
  · obtain ⟨-, rc, hrc, hname₀⟩ := sound_of_mem_ownEntities ht he₀
    obtain ⟨hc, he, -⟩ := generated_of_resolveTree hg hroot ht hrc
    exact .inl ⟨rc.cls, hc, he, hname.trans hname₀⟩
  · obtain ⟨⟨k, hk, hstub⟩, -⟩ := (mem_strangers_ownEntities_iff ht).1 hpending
    have hdotted := (moves_of_mem_ownEntities ht hk).dotted
    obtain ⟨rc₀, hrc₀, hk⟩ := mem_corrections_ownEntities_iff.1 hk
    obtain ⟨field, d, hd, hstranger, rfl⟩ := Stranger.mem_corrections_iff.1 hk
    cases hstub
    obtain ⟨hsmem, -⟩ := (ClassSet.find?_eq_some_iff hg.wellFormed hdotted).1 hs
    rcases mem_classes_of_resolveTree hg hsmem hr hrc with heq | ⟨hc, -, he⟩
    · obtain ⟨hc₀, he₀, hout⟩ := generated_of_resolveTree hg hroot ht hrc₀
      exact .inr ⟨rc₀.cls, hc₀, he₀, rc₀.fields, (resolveTree_ok ht).2 rc₀ hrc₀, field, d, hd,
        hout ▸ hstranger, s, hs, heq ▸ hname⟩
    · exact .inl ⟨rc.cls, hc, he, hname⟩

/-- Every stranger among the fields of a generated class is embedded if it has a class. -/
theorem stranger_planned (hg : g.Accepted) (hplan : g.plan = .ok plan) (hc : c ∈ g.classes.classes)
    (he : g.isEligible c = true) {fields : FieldMap} (hfields : (g.fieldMap c).result = .ok fields)
    {field : String} {d : FieldDescriptor} (hd : fields.get? field = some d)
    (hstranger : Stranger.isStranger (g.classes.outermost c).qualifiedName d = true) {s : StubClass}
    (hs : g.classes.find? d.stubType = some s) :
    ∃ t ∈ plan.entities, ∃ e ∈ t.values, e.stubClass = s.qualifiedName := by
  have hroot := outermost_mem_roots hg hc he
  obtain ⟨hmem, -, hin⟩ := ClassSet.outermost_spec hg.wellFormed hc
  obtain ⟨p, hp, hplanned, -⟩ := exists_of_mem_roots hplan hroot
  obtain ⟨t, ht, hentity, -⟩ := planClass_root_ok hg hroot hp
  have htree := (mem_values_treeOf_iff hg hmem).2 (.inr ⟨hc, hin, he⟩)
  obtain ⟨rc, hrc, rfl⟩ := mem_values_of_mem_treeOf ht htree
  have hsame := (resolveTree_ok ht).2 rc hrc
  rw [hfields] at hsame
  cases hsame
  have hk : ∃ k ∈ (g.ownEntities (g.classes.outermost rc.cls) t).corrections,
      k.stubType = d.stubType :=
    ⟨_, mem_corrections_ownEntities_iff.2
      ⟨rc, hrc, Stranger.mem_corrections_iff.2 ⟨field, d, hd, hstranger, rfl⟩⟩, rfl⟩
  have hpending := (mem_strangers_ownEntities_iff ht).2 ⟨hk, rfl⟩
  obtain ⟨e, he', hname⟩ := (origin_of_embedStrangers hentity).2 _ hpending s hs
  exact ⟨p.entity, hplanned, e, he', hname⟩

/-! ## What gets in -/

/-- Single strangers have entities, so only collections have strangers that are forbidden. -/
theorem collection_of_forbidden (hg : g.Accepted) {fields : FieldMap}
    (hfields : (g.fieldMap c).result = .ok fields) {field : String} {d : FieldDescriptor}
    (hd : fields.get? field = some d) {name : String}
    (hstranger : Stranger.isStranger name d = true) (hforbidden : g.Forbidden d.stubType) :
    d.kind = .collection := by
  obtain ⟨hrule, hkept⟩ := Resolver.rule_of_fieldMap hfields hd
  refine (Stranger.kind_of_isStranger hstranger).resolve_left fun hinner => ?_
  have hknown := hrule.known_of_innerClass (Resolver.isDefined_of_isKept hkept) hinner
  obtain ⟨target, htarget⟩ := Option.isSome_iff_exists.1 hknown
  obtain ⟨s, hs, he, -, hname⟩ := exists_of_targets_get? hg htarget
  rw [Name.dotted_eq_self hrule.stubType_dotted, or_self] at hname
  rw [← hname, forbidden_iff hg hs, he] at hforbidden
  cases hforbidden

theorem no_forbidden_planned_iff (hg : g.Accepted) (hplan : g.plan = .ok plan) :
    ((∀ t ∈ plan.entities, ∀ e ∈ t.values, ¬ g.Forbidden e.stubClass) ∧
      ∀ t ∈ plan.fields, ∀ f ∈ t.values, ¬ g.Forbidden f.stubClass) ↔
    ∀ c ∈ g.classes.classes, g.isEligible c = true → ∀ fields, (g.fieldMap c).result = .ok fields →
      ∀ field d, fields.get? field = some d → d.kind = .collection → d.isGenericInner = true →
        d.hasIdentity = false →
        Name.isWithin d.stubType (g.classes.outermost c).qualifiedName = false →
        ¬ g.Forbidden d.stubType := by
  constructor
  · rintro ⟨hentities, -⟩
    intro c hc he fields hfields field d hd hkind hinner hidentity hwithin hforbidden
    have hstranger : Stranger.isStranger (g.classes.outermost c).qualifiedName d = true := by
      simp [Stranger.isStranger, Stranger.refersToNested, hkind, hinner, hidentity, hwithin]
    have hclass := hforbidden
    obtain ⟨s, hs, hname, -⟩ := hclass
    have hdotted := (Resolver.rule_of_fieldMap hfields hd).1.stubType_dotted
    have hfind := (ClassSet.find?_eq_some_iff hg.wellFormed hdotted).2 ⟨hs, hname⟩
    obtain ⟨t, ht, e, he', hstub⟩ := stranger_planned hg hplan hc he hfields hd hstranger hfind
    exact hentities t ht e he' (hstub ▸ hname ▸ hforbidden)
  · intro hnone
    refine ⟨fun t ht e he hforbidden => ?_, fun t ht f hf => ?_⟩
    · obtain ⟨root, hroot, p, hp, rfl⟩ := (exists_root_of_mem_plan hplan).1 t ht
      rcases origin_of_mem_entities hg hroot hp he with
        ⟨c, hc, he, hname⟩ | ⟨c, hc, he, fields, hfields, field, d, hd, hstranger, s, hs, hname⟩
      · rw [hname, forbidden_iff hg hc, he] at hforbidden
        cases hforbidden
      · have hdotted := (Resolver.rule_of_fieldMap hfields hd).1.stubType_dotted
        obtain ⟨-, hstub⟩ := (ClassSet.find?_eq_some_iff hg.wellFormed hdotted).1 hs
        rw [hname, hstub] at hforbidden
        have hkind := collection_of_forbidden hg hfields hd hstranger hforbidden
        have hwithin := Stranger.not_isWithin_of_isStranger hstranger
        simp only [Stranger.isStranger, Stranger.refersToNested, hkind, Bool.and_eq_true,
          Bool.not_eq_true'] at hstranger
        exact hnone c hc he fields hfields field d hd hkind hstranger.1.1 hstranger.1.2 hwithin
          hforbidden
    · obtain ⟨root, hroot, p, hp, rfl⟩ := (exists_root_of_mem_plan hplan).2 t ht
      exact not_forbidden_of_mem_fields hg hroot hp hf

/-! ## A forbidden class in another root -/

/-- `a.Archive.NoteImpl` is forbidden, and `a.Offer` has a field of type `returns`. -/
def archive (returns : String) : ClassGraph :=
  build ⟨ClassDef.layoutAll none 0
    [⟨"a", "Archive", false, none, [], [],
        [⟨"", "NoteImpl", false, none, [], [⟨"getText", [], "java.lang.String"⟩], []⟩]⟩,
      ⟨"a", "Offer", false, none, [], [⟨"getNotes", [], returns⟩], []⟩]⟩ {}

/-- The forbidden class and a collection of it. -/
def archiveTypes : List String := ["a.Archive$NoteImpl", "java.util.List<a.Archive$NoteImpl>"]

theorem archive_spec : ∀ returns ∈ archiveTypes, (archive returns).Accepted ∧
    (∃ plan, (archive returns).plan = .ok plan) ∧ (archive returns).Forbidden "a.Archive.NoteImpl" ∧
    (archive returns).roots = (archive returns).classes.classes.filter (!·.isNested) := by
  intro returns hreturns
  have hfault : ∀ returns ∈ archiveTypes,
      firstFault? [] (archive returns).classes.classes = none := by decide
  have hg : (archive returns).Accepted :=
    accepted_of_fault?_eq_none (hfault returns hreturns) (by decide)
  have htop : ∀ returns ∈ archiveTypes,
      (archive returns).classes.topLevel.filter (archive returns).isEligible =
        (archive returns).classes.classes.filter (!·.isNested) := by decide
  have hsorted : ∀ returns ∈ archiveTypes, ((archive returns).classes.classes.filter
      (!·.isNested)).Pairwise fun a b => a.qualifiedName ≤ b.qualifiedName := by decide
  have hroots := roots_eq (htop returns hreturns) (hsorted returns hreturns)
  have hok : ∀ returns ∈ archiveTypes,
      ∀ root ∈ (archive returns).classes.classes.filter (!·.isNested),
      ((archive returns).planClass root).result.isOk = true := by decide
  have hforbidden : ∀ returns ∈ archiveTypes, ∃ c ∈ (archive returns).classes.classes,
      c.qualifiedName = "a.Archive.NoteImpl" ∧ (archive returns).isEligible c = false := by
    decide
  refine ⟨hg, exists_plan fun root hroot => ?_, ?_, hroots⟩
  · exact Diagnosed.exists_of_isOk (hok returns hreturns root (hroots ▸ hroot))
  · obtain ⟨c, hc, hname, he⟩ := hforbidden returns hreturns
    exact hname ▸ (forbidden_iff hg hc).2 he

/-- A collection of the forbidden class has it embedded. -/
theorem forbidden_planned_archive : (archive "java.util.List<a.Archive$NoteImpl>").Accepted ∧
    ∃ plan, (archive "java.util.List<a.Archive$NoteImpl>").plan = .ok plan ∧
      ∃ t ∈ plan.entities, ∃ e ∈ t.values,
        (archive "java.util.List<a.Archive$NoteImpl>").Forbidden e.stubClass := by
  obtain ⟨hg, ⟨plan, hplan⟩, hforbidden, hroots⟩ :=
    archive_spec "java.util.List<a.Archive$NoteImpl>" (by decide)
  have hoffer : ∃ root ∈ (archive "java.util.List<a.Archive$NoteImpl>").roots,
      (((archive "java.util.List<a.Archive$NoteImpl>").planClass root).result.toOption.map fun p =>
        p.entity.values.any (·.stubClass == "a.Archive.NoteImpl")) = some true := by
    rw [hroots]
    decide
  obtain ⟨root, hroot, h⟩ := hoffer
  obtain ⟨p, hp, h⟩ := Diagnosed.exists_of_toOption h
  obtain ⟨e, he, hname⟩ := List.any_eq_true.1 h
  exact ⟨hg, plan, hplan, _, mem_entities_of_planClass hplan hroot hp, e, he,
    (beq_iff_eq.1 hname) ▸ hforbidden⟩

/-- A single field of the forbidden class is left out, and with it the class. -/
theorem no_forbidden_planned_archive : ∃ plan, (archive "a.Archive$NoteImpl").plan = .ok plan ∧
    (archive "a.Archive$NoteImpl").Forbidden "a.Archive.NoteImpl" ∧
    (∀ t ∈ plan.entities, ∀ e ∈ t.values, e.stubClass ≠ "a.Archive.NoteImpl") ∧
    ∀ t ∈ plan.fields, ∀ f ∈ t.values, f.stubClass ≠ "a.Archive.NoteImpl" := by
  obtain ⟨hg, ⟨plan, hplan⟩, hforbidden, -⟩ := archive_spec "a.Archive$NoteImpl" (by decide)
  have hkinds : ∀ c ∈ (archive "a.Archive$NoteImpl").classes.classes,
      (((archive "a.Archive$NoteImpl").fieldMap c).result.toOption.map fun fields =>
        fields.entries.all (·.2.kind ≠ .collection)) = some true := by decide
  have hspared := (no_forbidden_planned_iff hg hplan).2 fun c hc _ fields hmap _ d hd hkind => by
    have h := hkinds c hc
    rw [hmap] at h
    have hall := List.all_eq_true.1 (Option.some.inj h) _ (NameMap.mem_entries_of_get? hd)
    simp [hkind] at hall
  obtain ⟨hentities, hfields⟩ := hspared
  exact ⟨plan, hplan, hforbidden, fun t ht e he hname => hentities t ht e he (hname ▸ hforbidden),
    fun t ht f hf hname => hfields t ht f hf (hname ▸ hforbidden)⟩

end EntityGen.ClassGraph
