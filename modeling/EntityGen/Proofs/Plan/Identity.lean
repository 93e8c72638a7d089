import EntityGen.Proofs.Field.Identity
import EntityGen.Proofs.Plan.FieldMaps

/-! # The identity of an entity and the flag of its field interface

An entity has for its identity the first field, in order of names, that goes by the identity's name
up to the case of letters (`Entity.identity?_eq_some_iff`). A field interface says that it has the
identity if a plain value goes by this very name (`hasIdentityField_iff`).

Both are a matter of the accessors that a class has or inherits: `Resolver.IdentityFrom` is the
accessor that the identity comes from (`exists_identityFrom`, `IdentityFrom.exists_identity?`), of
which there is one at most (`IdentityFrom.eq`).

**The flag says that the identity is a plain value** exactly if the identity has the configured
name, letter by letter, or if the identity and the field of that name, if any, are both plain values
or both not (`identity_flag_iff`). An account has a plain value for its identity and no flag, for
its accessor is `getID` (`account_without_flag`). -/

namespace EntityGen

/-- Whether a method returns a primitive type. -/
def MethodDef.returnsPrimitive (method : MethodDef) : Bool :=
  TypeName.isPrimitive (Name.dotted (Text.trim method.returns))

/-! ## The identity of an entity -/

namespace Entity

variable {e : Entity} {name : String} {d : FieldDescriptor}

theorem identity?_eq_some_iff : e.identity? = some (name, d) ↔
    e.fields.get? name = some d ∧ e.isIdentity name = true ∧
      ∀ other ∈ e.fields.keys, e.isIdentity other = true → name ≤ other :=
  NameMap.find?_eq_some_iff (p := e.isIdentity)

theorem identity?_eq_none_iff :
    e.identity? = none ↔ ∀ name ∈ e.fields.keys, e.isIdentity name = false := by
  simp [identity?, NameMap.keys, List.find?_eq_none]

/-- The identity of the entity is a plain value. -/
def HasPlainIdentity (e : Entity) : Prop :=
  ∃ name d, e.identity? = some (name, d) ∧ d.kind = .primitive

/-- A field has the kind that it has in the field map. -/
theorem SameField.kind {d' : FieldDescriptor} (h : e.SameField name d d') : d.kind = d'.kind := by
  rcases h with rfl | ⟨-, h⟩
  · rfl
  · rw [h]

end Entity

namespace Resolver

variable {r : Resolver} {c : StubClass} {fields : FieldMap} {name : String} {d : FieldDescriptor}
  {method other : MethodDef} {e : Entity}

/-! ## The accessor that it comes from -/

/-- The identity of a class comes from this accessor: among the names of kept accessors that are the
identity's, up to the case of letters, its own is the least, and it is the first of this name. -/
structure IdentityFrom (r : Resolver) (c : StubClass) (method : MethodDef) : Prop where
  first : method ∈ r.firstAccessors c
  named : r.isIdentity (r.nameOf c method) = true
  least : ∀ other ∈ r.keptAccessors c, r.isIdentity (r.nameOf c other) = true →
    r.nameOf c method ≤ r.nameOf c other

/-- An accessor gives a plain value the identity's name, letter by letter. -/
def GivesExactIdentity (r : Resolver) (c : StubClass) : Prop :=
  ∃ method ∈ r.firstAccessors c, r.nameOf c method = r.identityName ∧
    method.returnsPrimitive = true

theorem eq_of_nameOf_eq (h : method ∈ r.firstAccessors c) (h' : other ∈ r.firstAccessors c)
    (hname : r.nameOf c method = r.nameOf c other) : method = other :=
  List.inj_on_of_nodup_map firstOfEach_nodup h h' hname

theorem IdentityFrom.eq (h : r.IdentityFrom c method) (h' : r.IdentityFrom c other) :
    method = other :=
  eq_of_nameOf_eq h.first h'.first <| String.le_antisymm
    (h.least other (mem_of_mem_firstOfEach h'.first) h'.named)
    (h'.least method (mem_of_mem_firstOfEach h.first) h.named)

/-- An accessor of the configured name is the one that the identity comes from. -/
theorem IdentityFrom.givesExactIdentity_iff (hfrom : r.IdentityFrom c method)
    (hname : r.nameOf c method = r.identityName) :
    r.GivesExactIdentity c ↔ method.returnsPrimitive = true := by
  constructor
  · rintro ⟨other, hother, hname', hprimitive⟩
    rwa [eq_of_nameOf_eq hfrom.first hother (hname.trans hname'.symm)]
  · exact fun hprimitive => ⟨method, hfrom.first, hname, hprimitive⟩

theorem isIdentity_identityName (r : Resolver) : r.isIdentity r.identityName = true := by
  rw [isIdentity, Text.sameIgnoringCase, beq_self_eq_true]

section
variable (h : (r.fieldMap c).result = .ok fields) (hreflects : e.Reflects fields)
  (hname : e.identityName = r.identityName)
include h hreflects hname

theorem exists_identityFrom (hidentity : e.identity? = some (name, d)) :
    ∃ method, r.IdentityFrom c method ∧ r.nameOf c method = name ∧
      (d.kind = .primitive ↔ method.returnsPrimitive = true) := by
  obtain ⟨hd, hnamed, hleast⟩ := Entity.identity?_eq_some_iff.1 hidentity
  obtain ⟨d', hd', hsame⟩ := hreflects.exists_same hd
  obtain ⟨method, hfirst, rfl, rfl⟩ := exists_first_of_get? h hd'
  simp only [Entity.isIdentity, hname, hreflects.keys] at hnamed hleast
  refine ⟨method, ⟨hfirst, hnamed, fun other hother => ?_⟩, rfl, ?_⟩
  · exact hleast _ ((mem_keys_iff h).2 ⟨other, hother, rfl⟩)
  · rw [hsame.kind, kind_fieldOf]
    exact kind_eq_primitive_iff r method.returns

theorem IdentityFrom.exists_identity? (hfrom : r.IdentityFrom c method) :
    ∃ d, e.identity? = some (r.nameOf c method, d) := by
  have hmem : r.nameOf c method ∈ e.fields.keys := by
    rw [hreflects.keys]
    exact (mem_keys_iff h).2 ⟨method, mem_of_mem_firstOfEach hfrom.first, rfl⟩
  obtain ⟨d, hd⟩ := NameMap.mem_keys_iff.1 hmem
  refine ⟨d, Entity.identity?_eq_some_iff.2 ⟨hd, ?_, fun key hkey => ?_⟩⟩
  · rw [Entity.isIdentity, hname]
    exact hfrom.named
  · rw [hreflects.keys] at hkey
    obtain ⟨other, hother, rfl⟩ := (mem_keys_iff h).1 hkey
    rw [Entity.isIdentity, hname]
    exact hfrom.least other hother

/-- The identity of an entity is a plain value if its accessor returns a primitive type. -/
theorem hasPlainIdentity_iff :
    e.HasPlainIdentity ↔ ∃ method, r.IdentityFrom c method ∧ method.returnsPrimitive = true := by
  constructor
  · rintro ⟨name, d, hidentity, hkind⟩
    obtain ⟨method, hfrom, -, hprimitive⟩ := exists_identityFrom h hreflects hname hidentity
    exact ⟨method, hfrom, hprimitive.1 hkind⟩
  · rintro ⟨method, hfrom, hprimitive⟩
    obtain ⟨d, hidentity⟩ := hfrom.exists_identity? h hreflects hname
    obtain ⟨other, hother, -, hkind⟩ := exists_identityFrom h hreflects hname hidentity
    obtain rfl := hfrom.eq hother
    exact ⟨_, d, hidentity, hkind.2 hprimitive⟩

theorem isIdentity_of_identity?_eq_none (hidentity : e.identity? = none) :
    ∀ method ∈ r.keptAccessors c, r.isIdentity (r.nameOf c method) = false := by
  intro method hmethod
  have hkey := Entity.identity?_eq_none_iff.1 hidentity (r.nameOf c method)
  rw [hreflects.keys, Entity.isIdentity, hname] at hkey
  exact hkey ((mem_keys_iff h).2 ⟨method, hmethod, rfl⟩)

/-- The field of the configured name and the identity are plain values together, unless the identity
has another name and only one of the two is a plain value. -/
theorem givesExactIdentity_agrees_iff :
    (r.GivesExactIdentity c ↔ e.HasPlainIdentity) ↔
      ∀ method, r.IdentityFrom c method → r.nameOf c method = r.identityName ∨
        (method.returnsPrimitive = true ↔ r.GivesExactIdentity c) := by
  rw [hasPlainIdentity_iff h hreflects hname]
  cases hidentity : e.identity? with
  | none =>
    have hnone := isIdentity_of_identity?_eq_none h hreflects hname hidentity
    have hfrom : ∀ method, ¬ r.IdentityFrom c method := fun method hfrom =>
      Bool.false_ne_true <|
        (hnone method (mem_of_mem_firstOfEach hfrom.first)).symm.trans hfrom.named
    have hexact : ¬ r.GivesExactIdentity c := by
      rintro ⟨method, hfirst, hid, -⟩
      have hkey := hnone method (mem_of_mem_firstOfEach hfirst)
      rw [hid, isIdentity_identityName] at hkey
      cases hkey
    simp [hfrom, hexact]
  | some identity =>
    obtain ⟨method, hfrom, -, -⟩ := exists_identityFrom h hreflects hname hidentity
    have honly : ∀ other, r.IdentityFrom c other ↔ method = other := fun other =>
      ⟨hfrom.eq, fun heq => heq ▸ hfrom⟩
    simp only [honly, exists_eq_left', forall_eq']
    rw [iff_comm (a := method.returnsPrimitive = true)]
    exact ⟨.inr, fun hagree => hagree.elim hfrom.givesExactIdentity_iff id⟩

end

end Resolver

namespace ClassGraph

variable {g : ClassGraph} {c : StubClass} {rc : ResolvedClass} {f : FieldsInterface}

/-! ## What is generated for a class -/

theorem stubClass_of_fieldsContext {t : FieldsTree} (h : (g.fieldsContext c).result = .ok t) :
    t.value.stubClass = c.qualifiedName := by
  obtain ⟨resolved, hr, h⟩ := Diagnosed.result_bind_eq_ok.1 h
  cases h
  rw [fieldsTree, Tree.value_mapRoot, Tree.value_mapWithChildren]
  exact congrArg StubClass.qualifiedName (value_cls_of_resolveTree hr)

theorem stubClass_of_entityContext {t : EntityTree} (h : (g.entityContext c).result = .ok t) :
    t.value.stubClass = c.qualifiedName := by
  obtain ⟨resolved, hr, h⟩ := Diagnosed.result_bind_eq_ok.1 h
  rw [stubClass_of_entityTree h, value_cls_of_resolveTree hr]

/-- Generated entities have the fields of a field map and the configured name for the identity. -/
theorem reflects_of_entityContext (hg : g.Accepted) (hc : c ∈ g.classes.classes)
    {t : EntityTree} (h : (g.entityContext c).result = .ok t) :
    ∀ e ∈ t.values, e.identityName = g.config.identityName ∧
      ∃ fields, g.Inspected e.stubClass fields ∧ e.Reflects fields := by
  obtain ⟨resolved, hr, h⟩ := Diagnosed.result_bind_eq_ok.1 h
  refine forall_of_entityTree ?_ ?_ ?_ h
  · rintro e stubType target ⟨hname, fields, hfields, hreflects⟩
    exact ⟨hname, fields, hfields, hreflects.retarget stubType target⟩
  · intro stubType name target c resolved hfind hr e he
    have hname : e.identityName = g.config.identityName := by
      rcases mem_values_strangerEntities_iff.1 he with rfl | ⟨-, -, rc, -, rfl⟩ <;> rfl
    have hplain := plain_of_mem_strangerEntities hg (ClassSet.mem_of_find? hfind) hr he
    obtain ⟨hinspected, hreflects, -⟩ := hplain.madeFrom c
    exact ⟨hname, e.fields, hinspected, hreflects⟩
  · intro e he
    rcases mem_values_ownEntities_iff.1 he with rfl | ⟨t', ht', rc, hrc, rfl⟩
    · have hreflects : Entity.Reflects _ resolved.value.fields :=
        reflects_entity g (g.classes.outermost resolved.value.cls) resolved.value
      exact ⟨rfl, _, inspected_of_resolveTree hg hc hr resolved.value_mem_values, hreflects⟩
    · have hrc := Tree.mem_values_iff.2 (.inr ⟨t', ht', hrc⟩)
      exact ⟨rfl, _, inspected_of_resolveTree hg hc hr hrc, reflects_entity g _ rc⟩

/-- A field interface has the identity if a plain value has the configured name. -/
theorem hasIdentityField_iff {nested : List ResolvedClass} :
    (g.fieldsInterface rc nested).hasIdentityField = true ↔
      ∃ d, rc.fields.get? g.config.identityName = some d ∧ d.kind = .primitive := by
  simp [fieldsInterface, NameMap.contains, NameSet.get?_ofList, FieldDescriptor.isPrimitive,
    NameMap.get?_eq_some_iff]

theorem givesExactIdentity_iff {fields : FieldMap} (h : (g.fieldMap c).result = .ok fields) :
    (g.resolverOf c).GivesExactIdentity c ↔
      ∃ d, fields.get? g.config.identityName = some d ∧ d.kind = .primitive := by
  constructor
  · rintro ⟨method, hfirst, hname, hprimitive⟩
    refine ⟨_, hname ▸ Resolver.get?_of_mem_firstAccessors h hfirst, ?_⟩
    rw [Resolver.kind_fieldOf]
    exact (Resolver.kind_eq_primitive_iff _ method.returns).2 hprimitive
  · rintro ⟨d, hd, hkind⟩
    obtain ⟨method, hfirst, hname, rfl⟩ := Resolver.exists_first_of_get? h hd
    rw [Resolver.kind_fieldOf] at hkind
    exact ⟨method, hfirst, hname, (Resolver.kind_eq_primitive_iff _ method.returns).1 hkind⟩

/-- **The flag of a field interface** says that an accessor gives a plain value the configured name,
letter by letter. **The identity of the entity** comes from an accessor whose name is the least of
those that are the configured one up to the case of letters. So the flag says that the identity is a
plain value exactly if the identity has the configured name, or if both the identity and the field
of the configured name are plain values, or neither is. -/
theorem identity_flag_iff (hg : g.Accepted) (hc : c ∈ g.classes.classes) {t : EntityTree}
    {t' : FieldsTree} (ht : (g.entityContext c).result = .ok t)
    (ht' : (g.fieldsContext c).result = .ok t') :
    t.value.stubClass = c.qualifiedName ∧ t'.value.stubClass = c.qualifiedName ∧
    ∀ e ∈ t.values, ∀ f ∈ t'.values, e.stubClass = f.stubClass →
      ∃ d ∈ g.classes.classes, d.qualifiedName = f.stubClass ∧
        (f.hasIdentityField = true ↔ (g.resolverOf d).GivesExactIdentity d) ∧
        (e.HasPlainIdentity ↔ ∃ method, (g.resolverOf d).IdentityFrom d method ∧
          method.returnsPrimitive = true) ∧
        ((f.hasIdentityField = true ↔ e.HasPlainIdentity) ↔
          ∀ method, (g.resolverOf d).IdentityFrom d method →
            (g.resolverOf d).nameOf d method = g.config.identityName ∨
              (method.returnsPrimitive = true ↔ (g.resolverOf d).GivesExactIdentity d)) := by
  refine ⟨stubClass_of_entityContext ht, stubClass_of_fieldsContext ht', fun e he f hf hsame => ?_⟩
  obtain ⟨hname, fields, ⟨d, hd, hdname, hfields, -⟩, hreflects⟩ :=
    reflects_of_entityContext hg hc ht e he
  obtain ⟨rc, nested, ⟨d', hd', hdname', hfields', -⟩, heq⟩ :=
    exists_of_mem_fieldsContext hg hc ht' hf
  obtain rfl : d = d' := ClassSet.eq_of_qualifiedName_eq hg.wellFormed hd hd'
    (hdname.trans (hsame.trans hdname'.symm))
  have hflag : f.hasIdentityField = true ↔ (g.resolverOf d).GivesExactIdentity d := by
    have hplace : f.hasIdentityField = (g.fieldsInterface rc nested).hasIdentityField :=
      (congrArg FieldsInterface.hasIdentityField heq :)
    rw [hplace, hasIdentityField_iff, givesExactIdentity_iff hfields']
  refine ⟨d, hd, hdname', hflag, Resolver.hasPlainIdentity_iff hfields hreflects hname, ?_⟩
  rw [hflag]
  exact Resolver.givesExactIdentity_agrees_iff hfields hreflects hname

/-- Accounts and customers have a number for their identity, spelled in two ways. -/
def accounts : ClassGraph :=
  .build ⟨ClassDef.layoutAll none 0
    [⟨"a", "Account", false, none, [], [⟨"getID", [], "java.lang.Long"⟩], []⟩,
      ⟨"a", "Customer", false, none, [], [⟨"getId", [], "java.lang.Long"⟩], []⟩]⟩ {}

theorem accepted_accounts : accounts.Accepted :=
  accepted_of_fault?_eq_none (by decide) (by decide)

theorem contexts_accounts :
    (∃ c ∈ accounts.classes.classes, c.qualifiedName = "a.Customer" ∧
      (accounts.entityContext c).result.isOk = true ∧
      (accounts.fieldsContext c).result.isOk = true ∧
      (∀ d ∈ accounts.classes.classes, d.qualifiedName = "a.Customer" → d = c) ∧
      ∀ method ∈ (accounts.resolverOf c).firstAccessors c,
        (accounts.resolverOf c).nameOf c method = "id") ∧
    ∃ c ∈ accounts.classes.classes, c.qualifiedName = "a.Account" ∧
      (accounts.entityContext c).result.toOption.map (fun t =>
        (t.value.stubClass, t.value.identity?.map fun (name, d) => (name, d.kind))) =
          some ("a.Account", some ("iD", .primitive)) ∧
      (accounts.fieldsContext c).result.toOption.map (fun t =>
        (t.value.stubClass, t.value.hasIdentityField)) = some ("a.Account", false) := by
  decide +kernel

/-- For customers the flag and the identity agree. -/
theorem identity_flag_customer : ∃ c ∈ accounts.classes.classes, c.qualifiedName = "a.Customer" ∧
    ∃ t t', (accounts.entityContext c).result = .ok t ∧
      (accounts.fieldsContext c).result = .ok t' ∧
      (FieldsInterface.hasIdentityField t'.value = true ↔ Entity.HasPlainIdentity t.value) := by
  obtain ⟨⟨c, hc, hname, hentity, hinterface, honly, hexact⟩, -⟩ := contexts_accounts
  obtain ⟨t, ht⟩ := Diagnosed.exists_of_isOk hentity
  obtain ⟨t', ht'⟩ := Diagnosed.exists_of_isOk hinterface
  obtain ⟨hstub, hstub', hflag⟩ := identity_flag_iff accepted_accounts hc ht ht'
  obtain ⟨d, hd, hdname, -, -, hagree⟩ := hflag _ t.value_mem_values _ t'.value_mem_values
    (hstub.trans hstub'.symm)
  obtain rfl := honly d hd (hdname.trans (hstub'.trans hname))
  exact ⟨d, hc, hname, t, t', ht, ht',
    hagree.2 fun method hfrom => .inl (hexact method hfrom.first)⟩

/-- The identity of an account is a plain value, which the flag of its field interface denies. -/
theorem account_without_flag : accounts.Accepted ∧
    ∃ c ∈ accounts.classes.classes, c.qualifiedName = "a.Account" ∧
      ∃ t t', (accounts.entityContext c).result = .ok t ∧
        (accounts.fieldsContext c).result = .ok t' ∧
        t.value.stubClass = t'.value.stubClass ∧
        (∃ d, Entity.identity? t.value = some ("iD", d) ∧ d.kind = .primitive) ∧
        FieldsInterface.hasIdentityField t'.value = false ∧
        ¬ (FieldsInterface.hasIdentityField t'.value = true ↔ Entity.HasPlainIdentity t.value) := by
  obtain ⟨-, c, hc, hname, hentity, hinterface⟩ := contexts_accounts
  obtain ⟨t, ht, h⟩ := Diagnosed.exists_of_toOption hentity
  obtain ⟨t', ht', h'⟩ := Diagnosed.exists_of_toOption hinterface
  simp only [Prod.mk.injEq, Option.map_eq_some_iff] at h h'
  obtain ⟨hstub, ⟨name, d⟩, hidentity, rfl, hkind⟩ := h
  obtain ⟨hstub', hflag⟩ := h'
  refine ⟨accepted_accounts, c, hc, hname, t, t', ht, ht', hstub.trans hstub'.symm,
    ⟨d, hidentity, hkind⟩, hflag, fun hagree => ?_⟩
  rw [hagree.2 ⟨_, d, hidentity, hkind⟩] at hflag
  cases hflag

end ClassGraph
end EntityGen
