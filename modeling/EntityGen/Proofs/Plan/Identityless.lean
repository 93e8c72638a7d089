import EntityGen.Proofs.Field.Ancestors
import EntityGen.Proofs.Plan.Identity

/-! # Fields without identity in a field interface

A field interface lists the constants of fields whose types have no identity
(`FieldsInterface.identitylessFields`), and a field's descriptor says whether the field's type has
one. They do not ask the same question. The descriptor's answer is that of the search among all
ancestors, for fields and accessors in any case of letters; the list asks the class of the type
alone, for one accessor with the plain name (`ClassGraph.hasIdentityAccessor`).

* `listsIdentityless_iff`: a constant is listed unless the types of all fields that have it,
  primitive types apart, have the plain accessor (`ConstantHasAccessor`).
* `hasIdentity_iff`, `hasIdentityAccessor_iff`: what the search and the list look for.
* `hasIdentity_of_hasIdentityAccessor`: an identity name that is read back from its accessor is
  found by the search wherever the plain accessor is. So the list has too much, if anything.

**The list and the descriptors agree** exactly as far as a type has an identity if and only if its
own class has the plain accessor (`identityless_agrees_iff`). The customer of an order has an
identity that a person inherits, and is listed as if there were none (`customer_listed`). -/

namespace EntityGen

/-- The interface lists the constant of a field among those of fields without identity. -/
def FieldsInterface.ListsIdentityless (f : FieldsInterface) (name : String) : Prop :=
  f.identitylessFields.contains (Name.constant name) = true

/-- The type of a field of this kind is asked for an identity: it is one class, or that of the
elements of a collection. -/
def FieldKind.AsksIdentity (kind : FieldKind) : Prop :=
  kind = .complexType ∨ kind = .innerClass ∨ kind = .collection

theorem FieldKind.AsksIdentity.ne_primitive {kind : FieldKind} (h : kind.AsksIdentity) :
    kind ≠ .primitive := by
  rcases h with rfl | rfl | rfl <;> exact nofun

namespace ClassGraph

variable {g : ClassGraph} {c : StubClass} {rc : ResolvedClass} {f : FieldsInterface}
  {nested : List ResolvedClass} {d : FieldDescriptor} {name : String}

/-! ## What is listed -/

/-- The types of all fields with the constant of `name`, primitive types apart, have the plain
accessor. -/
def ConstantHasAccessor (g : ClassGraph) (fields : FieldMap) (name : String) : Prop :=
  ∀ other d, fields.get? other = some d → Name.constant other = Name.constant name →
    d.kind ≠ .primitive → g.hasIdentityAccessor d = true

theorem listsIdentityless_iff : (g.fieldsInterface rc nested).ListsIdentityless name ↔
    ¬ g.ConstantHasAccessor rc.fields name := by
  have hlisted : (g.fieldsInterface rc nested).ListsIdentityless name ↔
      Name.constant name ∈ (rc.fields.entries.filter fun e =>
        !e.2.isPrimitive && !g.hasIdentityAccessor e.2).map fun e => Name.constant e.1 := by
    simp [FieldsInterface.ListsIdentityless, fieldsInterface, NameMap.contains, NameSet.get?_ofList]
  rw [hlisted, List.mem_map, ConstantHasAccessor]
  simp only [List.mem_filter, Prod.exists, NameMap.get?_eq_some_iff, FieldDescriptor.isPrimitive,
    Bool.and_eq_true, Bool.not_eq_true', decide_eq_false_iff_not]
  push Not
  constructor
  · rintro ⟨other, d, ⟨hd, hkind, haccessor⟩, hconstant⟩
    exact ⟨other, d, hd, hconstant, hkind, by simp [haccessor]⟩
  · rintro ⟨other, d, hd, hconstant, hkind, haccessor⟩
    exact ⟨other, d, ⟨hd, hkind, by simpa using haccessor⟩, hconstant⟩

/-- Where fields have constants of their own, only the field itself is behind its constant. -/
theorem constantHasAccessor_iff {fields : FieldMap}
    (hapart : Set.InjOn Name.constant {name | name ∈ fields.keys})
    (hd : fields.get? name = some d) (hkind : d.kind ≠ .primitive) :
    g.ConstantHasAccessor fields name ↔ g.hasIdentityAccessor d = true := by
  constructor
  · exact fun hall => hall name d hd rfl hkind
  · intro haccessor other d' hd' hconstant _
    obtain rfl : other = name :=
      hapart (NameMap.mem_keys_iff.2 ⟨d', hd'⟩) (NameMap.mem_keys_iff.2 ⟨d, hd⟩) hconstant
    rw [hd] at hd'
    cases hd'
    exact haccessor

/-! ## The two searches -/

/-- The type of a field has an identity if its class or an ancestor of it has a field or an accessor
of the identity's name, up to the case of letters. -/
theorem hasIdentity_iff (hrule : (g.resolver c).Rule d) (hkind : d.kind.AsksIdentity) :
    d.hasIdentity = true ↔
      ∃ n a, g.classes.Climbs d.stubType n a ∧ a.HasMember g.config.identityName := by
  have hfield : d.hasIdentity = g.classes.hasField d.stubType g.config.identityName := by
    rw [hrule.hasIdentity_eq]
    rcases hkind with hkind | hkind | hkind <;> rw [hkind] <;> rfl
  rw [hfield, ClassSet.hasField, Name.dotted_eq_self hrule.stubType_dotted,
    ClassSet.declaresWithin_length_iff]

/-- The plain accessor is an accessor of this name in the class of the type itself. -/
theorem hasIdentityAccessor_iff : g.hasIdentityAccessor d = true ↔
    ∃ a, g.classes.LeadsTo d.stubType a ∧ ∃ method ∈ a.methods, method.isAccessor = true ∧
      method.name = Name.accessorOfField g.config.identityName := by
  simp only [hasIdentityAccessor, StubClass.accessors, Option.any_eq_true, List.any_eq_true,
    List.mem_filter, beq_iff_eq, and_assoc, ClassSet.find?_eq_some_iff_leadsTo]

/-- A type with the plain accessor has an identity, if its class is looked at and the field of the
accessor is the identity. -/
theorem hasIdentity_of_hasIdentityAccessor (hrule : (g.resolver c).Rule d)
    (hkind : d.kind.AsksIdentity)
    (hread : Text.sameIgnoringCase
      (Name.fieldOfAccessor (Name.accessorOfField g.config.identityName))
        g.config.identityName = true)
    (hlooked : ClassSet.isFieldless d.stubType = false) (h : g.hasIdentityAccessor d = true) :
    d.hasIdentity = true := by
  obtain ⟨a, ha, method, hmethod, haccessor, hname⟩ := hasIdentityAccessor_iff.1 h
  have hvisits : g.classes.Visits d.stubType a := ClassSet.visits_iff.2 ⟨hlooked, ha⟩
  have hmember : a.HasMember g.config.identityName :=
    .inr ⟨method, hmethod, haccessor, by rw [hname, hread]⟩
  exact (hasIdentity_iff hrule hkind).2 ⟨0, a, .start hvisits, hmember⟩

/-! ## Agreement -/

/-- **The list and the descriptors agree** on a field exactly if having an identity is for the
field's type what having the plain accessor is for the types of all fields with its constant. Where
fields have constants of their own, only the field's own type counts. An identity is looked for in
all ancestors, the plain accessor in the class itself; where the class is looked at and the field of
the accessor is the identity, a type with the accessor has an identity. -/
theorem identityless_agrees_iff (hg : g.Accepted) (hc : c ∈ g.classes.classes) {t : FieldsTree}
    (ht : (g.fieldsContext c).result = .ok t) :
    t.value.stubClass = c.qualifiedName ∧
    ∀ f ∈ t.values, ∃ fields, g.Inspected f.stubClass fields ∧
      ∀ name d, fields.get? name = some d → d.kind.AsksIdentity →
        (f.ListsIdentityless name ↔ ¬ g.ConstantHasAccessor fields name) ∧
        ((f.ListsIdentityless name ↔ d.hasIdentity = false) ↔
          (d.hasIdentity = true ↔ g.ConstantHasAccessor fields name)) ∧
        (Set.InjOn Name.constant {name | name ∈ fields.keys} →
          ((f.ListsIdentityless name ↔ d.hasIdentity = false) ↔
            (d.hasIdentity = true ↔ g.hasIdentityAccessor d = true))) ∧
        (d.hasIdentity = true ↔
          ∃ n a, g.classes.Climbs d.stubType n a ∧ a.HasMember g.config.identityName) ∧
        (g.hasIdentityAccessor d = true ↔
          ∃ a, g.classes.LeadsTo d.stubType a ∧ ∃ method ∈ a.methods, method.isAccessor = true ∧
            method.name = Name.accessorOfField g.config.identityName) ∧
        (Text.sameIgnoringCase
            (Name.fieldOfAccessor (Name.accessorOfField g.config.identityName))
              g.config.identityName = true →
          ClassSet.isFieldless d.stubType = false →
            g.hasIdentityAccessor d = true → d.hasIdentity = true) := by
  refine ⟨stubClass_of_fieldsContext ht, fun f hf => ?_⟩
  obtain ⟨rc, nested, hinspected, heq⟩ := exists_of_mem_fieldsContext hg hc ht hf
  obtain ⟨owner, -, -, hfields, -⟩ := id hinspected
  refine ⟨rc.fields, hinspected, fun name d hd hkind => ?_⟩
  have hlisted : f.ListsIdentityless name ↔ ¬ g.ConstantHasAccessor rc.fields name := by
    have hplace : f.identitylessFields = (g.fieldsInterface rc nested).identitylessFields :=
      (congrArg FieldsInterface.identitylessFields heq :)
    rw [FieldsInterface.ListsIdentityless, hplace]
    exact listsIdentityless_iff
  have hagrees : (f.ListsIdentityless name ↔ d.hasIdentity = false) ↔
      (d.hasIdentity = true ↔ g.ConstantHasAccessor rc.fields name) := by
    rw [hlisted, ← Bool.not_eq_true, not_iff_not]
    exact iff_comm
  have hrule : (g.resolver (g.classes.outermost owner)).Rule d :=
    (Resolver.rule_of_fieldMap hfields hd).1
  refine ⟨hlisted, hagrees, fun hapart => ?_, hasIdentity_iff hrule hkind, hasIdentityAccessor_iff,
    hasIdentity_of_hasIdentityAccessor hrule hkind⟩
  rw [hagrees, constantHasAccessor_iff hapart hd hkind.ne_primitive]

/-- Orders have a customer, who inherits an identity, and a branch, which has one itself. -/
def sales : ClassGraph :=
  .build ⟨ClassDef.layoutAll none 0
    [⟨"a", "Base", false, none, [], [⟨"getId", [], "java.lang.Long"⟩], []⟩,
      ⟨"a", "Person", false, some "a.Base", [], [], []⟩,
      ⟨"a", "Order", false, none, [],
        [⟨"getBranch", [], "a.Base"⟩, ⟨"getCustomer", [], "a.Person"⟩], []⟩]⟩ {}

theorem accepted_sales : sales.Accepted :=
  accepted_of_fault?_eq_none (by decide) (by decide)

theorem context_order : ∃ c ∈ sales.classes.classes, c.qualifiedName = "a.Order" ∧
    (∀ d ∈ sales.classes.classes, d.qualifiedName = "a.Order" → d = c) ∧
    (sales.fieldsContext c).result.toOption.map (fun t =>
      (t.value.stubClass, t.value.identitylessFields.keys)) = some ("a.Order", ["CUSTOMER"]) := by
  decide +kernel

theorem branch_of_order : ∀ c ∈ sales.classes.classes, c.qualifiedName = "a.Order" →
    (sales.fieldMap c).result.toOption.map (fun fields => (fields.keys,
      (fields.get? "branch").map fun d => (d.kind, d.hasIdentity, sales.hasIdentityAccessor d))) =
        some (["branch", "customer"], some (.complexType, true, true)) := by
  decide +kernel

theorem customer_of_order : ∀ c ∈ sales.classes.classes, c.qualifiedName = "a.Order" →
    (sales.fieldMap c).result.toOption.map (fun fields =>
      (fields.get? "customer").map fun d => (d.kind, d.hasIdentity)) =
        some (some (.complexType, true)) := by
  decide +kernel

/-- The list and the descriptor agree on the branch of an order. -/
theorem identityless_agrees_branch : ∃ c ∈ sales.classes.classes, c.qualifiedName = "a.Order" ∧
    ∃ t, (sales.fieldsContext c).result = .ok t ∧
      ∃ fields, sales.Inspected t.value.stubClass fields ∧
        ∃ d, fields.get? "branch" = some d ∧ d.kind = .complexType ∧
          (FieldsInterface.ListsIdentityless t.value "branch" ↔ d.hasIdentity = false) := by
  obtain ⟨c, hc, hname, honly, hcontext⟩ := context_order
  obtain ⟨t, ht, h⟩ := Diagnosed.exists_of_toOption hcontext
  obtain ⟨fields, hfields, hbranch⟩ :=
    Diagnosed.exists_of_toOption (branch_of_order c hc hname)
  simp only [Option.map_eq_some_iff, Prod.mk.injEq] at h hbranch
  obtain ⟨hkeys, d, hd, hkind, hidentity, haccessor⟩ := hbranch
  obtain ⟨fields', ⟨c', hc', hname', hfields', hshown⟩, hagree⟩ :=
    (identityless_agrees_iff accepted_sales hc ht).2 t.value t.value_mem_values
  obtain rfl := honly c' hc' (hname'.trans h.1)
  obtain rfl := Except.ok.inj (hfields.symm.trans hfields')
  have hapart : Set.InjOn Name.constant {name | name ∈ fields.keys} := by
    have h : ∀ a ∈ ["branch", "customer"], ∀ b ∈ ["branch", "customer"],
        Name.constant a = Name.constant b → a = b := by decide +kernel
    rw [hkeys]
    exact fun a ha b hb => h a ha b hb
  obtain ⟨-, -, hagree, -⟩ := hagree "branch" d hd (.inl hkind)
  exact ⟨c', hc', hname, t, ht, fields, ⟨c', hc', hname', hfields', hshown⟩, d, hd, hkind,
    (hagree hapart).2 ⟨fun _ => haccessor, fun _ => hidentity⟩⟩

/-- The customer of an order has an identity and is listed among the fields without. -/
theorem customer_listed : sales.Accepted ∧
    ∃ c ∈ sales.classes.classes, c.qualifiedName = "a.Order" ∧
      ∃ t fields d, (sales.fieldsContext c).result = .ok t ∧ t.value.stubClass = "a.Order" ∧
        (sales.fieldMap c).result = .ok fields ∧ fields.get? "customer" = some d ∧
        d.kind = .complexType ∧ d.hasIdentity = true ∧
        FieldsInterface.ListsIdentityless t.value "customer" ∧
        ¬ (FieldsInterface.ListsIdentityless t.value "customer" ↔ d.hasIdentity = false) := by
  obtain ⟨c, hc, hname, -, hcontext⟩ := context_order
  obtain ⟨t, ht, h⟩ := Diagnosed.exists_of_toOption hcontext
  obtain ⟨fields, hfields, hcustomer⟩ :=
    Diagnosed.exists_of_toOption (customer_of_order c hc hname)
  simp only [Option.map_eq_some_iff, Prod.mk.injEq] at h hcustomer
  obtain ⟨hstub, hkeys⟩ := h
  obtain ⟨d, hd, hkind, hidentity⟩ := hcustomer
  have hlisted : FieldsInterface.ListsIdentityless t.value "customer" := by
    have hconstant : Name.constant "customer" ∈ ["CUSTOMER"] := by decide +kernel
    exact NameMap.contains_iff_mem_keys.2 (hkeys ▸ hconstant)
  refine ⟨accepted_sales, c, hc, hname, t, fields, d, ht, hstub, hfields, hd, hkind, hidentity,
    hlisted, fun hagree => ?_⟩
  rw [hagree.1 hlisted] at hidentity
  cases hidentity

end ClassGraph
end EntityGen
