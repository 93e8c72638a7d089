import EntityGen.Proofs.Plan.Identity
import EntityGen.Proofs.Source.Associations

/-! # Identities in generated classes

Which fields of a generated class are marked with `@Id`. Each field is asked by itself whether it
goes by the identity's name, and only in entities with rows of their own (`marksIdentity_iff`),
while an entity has one identity at most, the first such field (`Entity.identity?`).

**A class at the top marks its identity and nothing else** exactly if all accessors of the identity,
up to the case of letters, agree on its name, and so it is with marking no two fields
(`identity_marked_iff`). Classes inside it mark nothing. An account with `getId` and `getID` has two
identities (`two_identities_of_account`). -/

namespace EntityGen

/-! ## The mark -/

/-- The annotation of an identity is told from all others by its text. -/
theorem Annotation.text_eq_id_iff {a : Annotation} : a.text = Annotation.id.text ↔ a = .id := by
  cases a with
  | column name =>
    refine ⟨fun h => ?_, nofun⟩
    have htext := congrArg String.toList h
    simp [text] at htext
  | _ => decide

namespace Entity

variable {e : Entity} {name : String} {d : FieldDescriptor}

/-- The class of the entity marks the field as its identity. -/
def MarksIdentity (e : Entity) (name : String) : Prop :=
  ∃ d, e.fields.get? name = some d ∧ Code.line Annotation.id.text ∈ e.fieldCode name d

theorem id_mem_annotations_iff :
    .id ∈ e.annotations name d ↔ e.isIdentity name = true ∧ e.isEmbedded = false := by
  unfold annotations
  dsimp only
  split
  · next hidentity =>
    rw [Bool.and_eq_true, Bool.not_eq_true'] at hidentity
    simp [hidentity]
  · next hidentity =>
    rw [Bool.and_eq_true, Bool.not_eq_true'] at hidentity
    simp only [hidentity, iff_false]
    split
    · simp
    · cases d.kind <;> cases d.hasIdentity <;> simp

/-- Of the lines about a field only annotations look like one. -/
theorem line_mem_fieldCode_iff :
    Code.line Annotation.id.text ∈ e.fieldCode name d ↔ .id ∈ e.annotations name d := by
  have hstart : ∀ {line : String}, line.toList.head? ≠ some '@' → Annotation.id.text ≠ line := by
    rintro line hline rfl
    exact hline (by decide)
  have hdoc : ∀ lines, Code.line Annotation.id.text ∉ Source.docComment lines := by
    intro lines
    unfold Source.docComment
    split
    · exact List.not_mem_nil
    · simp only [List.mem_append, List.mem_singleton, List.mem_map, Code.line.injEq, not_or,
        not_exists, not_and]
      refine ⟨⟨hstart (by decide), fun l _ h => hstart ?_ h.symm⟩, hstart (by decide)⟩
      simp
  have hdeclaration : Annotation.id.text ≠
      "private " ++ e.declaredType name d ++ " " ++ name ++ ";" := hstart (by simp)
  have hannotations : Code.line Annotation.id.text ∈
      (e.annotations name d).map (fun a => Code.line a.text) ↔ .id ∈ e.annotations name d := by
    simp only [List.mem_map, Code.line.injEq, Annotation.text_eq_id_iff, exists_eq_right]
  unfold fieldCode
  rw [List.mem_append, List.mem_append, List.mem_append, hannotations, List.mem_singleton,
    List.mem_singleton, Code.line.injEq]
  constructor
  · rintro (((h | h) | h) | h)
    · cases h
    · split at h
      · exact absurd h (hdoc _)
      · cases h
    · exact h
    · exact absurd h hdeclaration
  · exact fun h => .inl (.inr h)

theorem marksIdentity_iff : e.MarksIdentity name ↔
    name ∈ e.fields.keys ∧ e.isIdentity name = true ∧ e.isEmbedded = false := by
  unfold MarksIdentity
  simp only [line_mem_fieldCode_iff, id_mem_annotations_iff, exists_and_right]
  rw [NameMap.mem_keys_iff]

/-- In an entity with rows of its own the identity is marked. -/
theorem marksIdentity_of_identity? (hrows : e.isEmbedded = false)
    (h : e.identity? = some (name, d)) : e.MarksIdentity name := by
  obtain ⟨hd, hidentity, -⟩ := identity?_eq_some_iff.1 h
  exact marksIdentity_iff.2 ⟨NameMap.mem_keys_iff.2 ⟨d, hd⟩, hidentity, hrows⟩

/-- Nothing but the identity is marked exactly if no two fields are. -/
theorem marks_identity_iff_unique (hrows : e.isEmbedded = false) :
    (∀ name, e.MarksIdentity name ↔ ∃ d, e.identity? = some (name, d)) ↔
      ∀ a b, e.MarksIdentity a → e.MarksIdentity b → a = b := by
  constructor
  · intro hmarks a b ha hb
    obtain ⟨d, ha⟩ := (hmarks a).1 ha
    obtain ⟨d', hb⟩ := (hmarks b).1 hb
    rw [ha] at hb
    cases hb
    rfl
  · refine fun hunique name => ⟨fun hname => ?_, fun ⟨d, h⟩ => marksIdentity_of_identity? hrows h⟩
    cases hidentity : e.identity? with
    | none =>
      obtain ⟨hkey, hnamed, -⟩ := marksIdentity_iff.1 hname
      rw [identity?_eq_none_iff.1 hidentity name hkey] at hnamed
      cases hnamed
    | some identity =>
      obtain rfl := hunique name identity.1 hname (marksIdentity_of_identity? hrows hidentity)
      exact ⟨identity.2, rfl⟩

end Entity

/-- The kept accessors that give a field the identity's name, up to the case of letters, give one
name. -/
def Resolver.NamesOneIdentity (r : Resolver) (c : StubClass) : Prop :=
  ∀ a ∈ r.keptAccessors c, ∀ b ∈ r.keptAccessors c, r.isIdentity (r.nameOf c a) = true →
    r.isIdentity (r.nameOf c b) = true → r.nameOf c a = r.nameOf c b

/-! ## Planned entities -/

namespace ClassGraph

variable {g : ClassGraph} {root : StubClass} {p : PlannedClass} {plan : Plan} {name : String}

/-- The class of a root marks the fields that go by the identity's name. -/
theorem marksIdentity_value_iff (hg : g.Accepted) (hroot : root ∈ g.roots)
    (hp : (g.planClass root).result = .ok p) : p.entity.value.MarksIdentity name ↔
      ∃ method ∈ (g.resolverOf root).keptAccessors root,
        (g.resolverOf root).nameOf root method = name ∧
          (g.resolverOf root).isIdentity name = true := by
  obtain ⟨resolved, hr, hentity, -⟩ := planClass_ok hp
  have hcontext : (g.entityContext root).result = .ok p.entity :=
    Diagnosed.result_bind_eq_ok.2 ⟨resolved, hr, hentity⟩
  obtain ⟨hmem, -, -⟩ := mem_roots_iff.1 hroot
  obtain ⟨hname, fields, ⟨c, hc, hcname, hfields, -⟩, hreflects⟩ :=
    reflects_of_entityContext hg hmem hcontext _ p.entity.value_mem_values
  obtain rfl : c = root := ClassSet.eq_of_qualifiedName_eq hg.wellFormed hc hmem
    (hcname.trans (stubClass_of_planClass hp).1)
  rw [Entity.marksIdentity_iff, hreflects.keys, Entity.isIdentity, hname,
    isEmbedded_value hg hroot hp, Resolver.mem_keys_iff (r := g.resolverOf c) hfields]
  simp only [and_true, exists_and_right, ← and_assoc]
  rfl

/-- **The class of a root marks its identity and nothing else**, and no two fields, exactly if the
accessors of the identity agree on its name. It always marks its identity; the classes inside it
mark none. -/
theorem identity_marked_iff (hg : g.Accepted) (hplan : g.plan = .ok plan) :
    ∀ t ∈ plan.entities,
      (∃ c ∈ g.roots, c.qualifiedName = t.value.stubClass ∧
        (∀ name, t.value.MarksIdentity name ↔
          ∃ method ∈ (g.resolverOf c).keptAccessors c, (g.resolverOf c).nameOf c method = name ∧
            (g.resolverOf c).isIdentity name = true) ∧
        (∀ name d, t.value.identity? = some (name, d) → t.value.MarksIdentity name) ∧
        ((∀ name, t.value.MarksIdentity name ↔ ∃ d, t.value.identity? = some (name, d)) ↔
          (g.resolverOf c).NamesOneIdentity c) ∧
        ((∀ a b, t.value.MarksIdentity a → t.value.MarksIdentity b → a = b) ↔
          (g.resolverOf c).NamesOneIdentity c)) ∧
      ∀ n ∈ t.children, ∀ e ∈ n.values, ∀ name, ¬ e.MarksIdentity name := by
  intro t ht
  obtain ⟨root, hroot, p, hp, rfl⟩ := (exists_root_of_mem_plan hplan).1 t ht
  have hrows := isEmbedded_value hg hroot hp
  have hmarks : ∀ name, p.entity.value.MarksIdentity name ↔ _ := fun name =>
    marksIdentity_value_iff hg hroot hp
  have hunique : (∀ a b, p.entity.value.MarksIdentity a → p.entity.value.MarksIdentity b → a = b) ↔
      (g.resolverOf root).NamesOneIdentity root := by
    simp only [hmarks]
    constructor
    · intro h a ha b hb hida hidb
      exact h _ _ ⟨a, ha, rfl, hida⟩ ⟨b, hb, rfl, hidb⟩
    · rintro h _ _ ⟨a, ha, rfl, hida⟩ ⟨b, hb, rfl, hidb⟩
      exact h a ha b hb hida hidb
  refine ⟨⟨root, hroot, (stubClass_of_planClass hp).1.symm, hmarks, fun name d =>
    Entity.marksIdentity_of_identity? hrows, ?_, hunique⟩, fun n hn e he name hname => ?_⟩
  · rw [Entity.marks_identity_iff_unique hrows, hunique]
  · obtain ⟨-, -, hembedded⟩ := Entity.marksIdentity_iff.1 hname
    rw [isEmbedded_of_mem_child hg hroot hp hn he] at hembedded
    cases hembedded

/-- Customers have one accessor for their identity, accounts have two. -/
def ledger : ClassGraph :=
  .build ⟨ClassDef.layoutAll none 0
    [⟨"a", "Account", false, none, [],
        [⟨"getId", [], "java.lang.Long"⟩, ⟨"getID", [], "java.lang.Long"⟩], []⟩,
      ⟨"a", "Customer", false, none, [], [⟨"getId", [], "java.lang.Long"⟩], []⟩]⟩ {}

theorem accepted_ledger : ledger.Accepted :=
  accepted_of_fault?_eq_none (by decide) (by decide)

theorem exists_plan_ledger : ∃ plan, ledger.plan = .ok plan :=
  exists_plan_of_isOk (by decide +kernel)

theorem roots_ledger : ledger.roots = ledger.classes.classes :=
  roots_eq (by decide) (by decide)

theorem accessors_customer : (∃ c ∈ ledger.classes.classes, c.qualifiedName = "a.Customer") ∧
    ∀ c ∈ ledger.classes.classes, c.qualifiedName = "a.Customer" →
      ∀ method ∈ (ledger.resolverOf c).keptAccessors c,
        (ledger.resolverOf c).nameOf c method = "id" := by
  decide +kernel

theorem identities_account : ∃ c ∈ ledger.classes.classes, c.qualifiedName = "a.Account" ∧
    (ledger.planClass c).result.toOption.map (fun p =>
      (p.entity.value.identityName, p.entity.value.fields.keys,
        p.entity.value.identity?.map (·.1))) = some ("id", ["iD", "id"], some "iD") := by
  decide +kernel

/-- Customers mark their identity and nothing else. -/
theorem identity_marked_customer : ∃ plan, ledger.plan = .ok plan ∧ ∃ t ∈ plan.entities,
    t.value.stubClass = "a.Customer" ∧
      ∀ name, t.value.MarksIdentity name ↔ ∃ d, t.value.identity? = some (name, d) := by
  obtain ⟨plan, hplan⟩ := exists_plan_ledger
  obtain ⟨⟨root, hmem, hname⟩, hcustomer⟩ := accessors_customer
  obtain ⟨p, hp, ht, -⟩ := exists_of_mem_roots hplan (roots_ledger ▸ hmem)
  have hstub := (stubClass_of_planClass hp).1.trans hname
  obtain ⟨⟨c, hc, hcname, -, -, hmarks, -⟩, -⟩ := identity_marked_iff accepted_ledger hplan _ ht
  have hnames := hcustomer c (roots_ledger ▸ hc) (hcname.trans hstub)
  exact ⟨plan, hplan, p.entity, ht, hstub,
    hmarks.2 fun a ha b hb _ _ => (hnames a ha).trans (hnames b hb).symm⟩

/-- Accounts mark two fields, one of which is not their identity. -/
theorem two_identities_of_account : ledger.Accepted ∧ ∃ plan, ledger.plan = .ok plan ∧
    ∃ t ∈ plan.entities, t.value.stubClass = "a.Account" ∧
      t.value.MarksIdentity "id" ∧ t.value.MarksIdentity "iD" ∧
      (∃ d, t.value.identity? = some ("iD", d)) ∧
      ¬ ∀ name, t.value.MarksIdentity name ↔ ∃ d, t.value.identity? = some (name, d) := by
  obtain ⟨plan, hplan⟩ := exists_plan_ledger
  obtain ⟨root, hmem, hname, h⟩ := identities_account
  have hroot : root ∈ ledger.roots := roots_ledger ▸ hmem
  obtain ⟨p, hp, h⟩ := Diagnosed.exists_of_toOption h
  simp only [Prod.mk.injEq, Option.map_eq_some_iff] at h
  obtain ⟨hidName, hkeys, ⟨_, d⟩, hidentity, rfl⟩ := h
  have hmarks : ∀ name ∈ ["iD", "id"], p.entity.value.MarksIdentity name := by
    intro name hname
    have hnamed : ∀ name ∈ ["iD", "id"], Text.sameIgnoringCase name "id" = true := by decide
    refine Entity.marksIdentity_iff.2 ⟨hkeys ▸ hname, ?_, isEmbedded_value accepted_ledger hroot hp⟩
    rw [Entity.isIdentity, hidName]
    exact hnamed name hname
  refine ⟨accepted_ledger, plan, hplan, p.entity, mem_entities_of_planClass hplan hroot hp,
    (stubClass_of_planClass hp).1.trans hname, hmarks _ (by decide), hmarks _ (by decide),
    ⟨d, hidentity⟩, fun hagree => ?_⟩
  obtain ⟨d', h⟩ := (hagree "id").1 (hmarks _ (by decide))
  rw [hidentity] at h
  simp at h

end ClassGraph
end EntityGen
