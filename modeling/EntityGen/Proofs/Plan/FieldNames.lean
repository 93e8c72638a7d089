import EntityGen.Proofs.Field.Precedence
import EntityGen.Proofs.Name
import EntityGen.Proofs.Plan.FieldMaps
import EntityGen.Source.Entity
import Mathlib.Data.Set.Function

/-! # Names made of field names

A field gives its name to a constant, a column and two accessors in generated code. Fields are told
apart by their names, but constants, columns and accessors say less of the case of letters.

* `FieldsInterface.NamesFields.keepsApart_iff`: a field interface tells its fields apart exactly if
  their constants are different; of several fields with one constant the last has it (`get?_eq`).
* `Entity.NamesFields.keepsApart_iff`: an entity tells its fields apart exactly if their columns and
  their capitalized names are different.
* `Entity.accessorsCode_eq`: the methods of a field have the names made of its capitalized name.
* `namesFields_of_fieldsContext`, `namesFields_of_entityContext`: all that is generated for a class
  has the fields of a field map, with their constants.

**The names of a field are its own** exactly as far as constants and capitalized names are
(`field_names_apart_iff`), and so they are if all fields have names in lower camel case. The two
texts of a memo have one constant, one column and one pair of accessors (`memo_texts_meet`). -/

namespace EntityGen

/-- The name of the method that sets a field. -/
def Name.setterOfField (field : String) : String := "set" ++ capitalize field

variable {fields : FieldMap} {name column : String}

/-! ## Field interfaces -/

namespace FieldsInterface

variable {f : FieldsInterface}

/-- The interface has the constants of the fields of a map. -/
def NamesFields (f : FieldsInterface) (fields : FieldMap) : Prop :=
  f.constants = .ofList (fields.keys.map fun field => (Name.constant field, field))

/-- The interface has a constant for each field of a map. -/
structure KeepsApart (f : FieldsInterface) (fields : FieldMap) : Prop where
  get? : ∀ name ∈ fields.keys, f.constants.get? (Name.constant name) = some name
  fieldCount : f.fieldCount = fields.size

/-- Of several fields with one constant the last has it. -/
theorem NamesFields.get?_eq (h : f.NamesFields fields) (constant : String) :
    f.constants.get? constant = (fields.keys.filter (Name.constant · = constant)).getLast? := by
  rw [h, NameMap.get?_ofList_eq_getLast?, List.filter_map, List.getLast?_map, Option.map_map]
  exact congrFun Option.map_id _

theorem NamesFields.keepsApart_iff (h : f.NamesFields fields) :
    f.KeepsApart fields ↔ Set.InjOn Name.constant {name | name ∈ fields.keys} := by
  constructor
  · rintro ⟨hget, -⟩ a ha b hb heq
    have hb := hget b hb
    rw [← heq, hget a ha] at hb
    exact Option.some.inj hb
  · intro hinj
    have hnodup :
        ((fields.keys.map fun field => (Name.constant field, field)).map (·.1)).Nodup := by
      rw [List.map_map]
      exact (NameMap.keys_nodup _).map_on fun a ha b hb => hinj ha hb
    refine ⟨fun name hname => ?_, ?_⟩
    · rw [h, NameMap.get?_ofList_eq_some_iff hnodup]
      exact List.mem_map.2 ⟨name, hname, rfl⟩
    · have hlen := (NameMap.keys_ofList_perm hnodup).length_eq
      rw [← h] at hlen
      simpa [fieldCount, NameMap.keys, NameMap.size] using hlen

end FieldsInterface

/-! ## Entities -/

namespace Entity

variable {e e' : Entity} {d : FieldDescriptor}

/-- A method that gets a field and one that sets it, by their names. -/
def accessorsNamed (e : Entity) (getter setter field : String) (d : FieldDescriptor) : List Code :=
  [ .blank,
    .block ("public " ++ e.declaredType field d ++ " " ++ getter ++ "()")
      [.line ("return " ++ field ++ ";")],
    .blank,
    .block ("public void " ++ setter ++ "(" ++ e.declaredType field d ++ " " ++ field ++ ")")
      [.line ("this." ++ field ++ " = " ++ field ++ ";")] ]

/-- The methods that an entity has for a field go by the field's name. -/
theorem accessorsCode_eq (e : Entity) (field : String) (d : FieldDescriptor) :
    e.accessorsCode field d =
      e.accessorsNamed (Name.accessorOfField field) (Name.setterOfField field) field d := by
  have hget : " get" = " " ++ Name.accessorStart := by decide
  have hset : "public void set" = "public void " ++ "set" := by decide
  rw [accessorsCode, hget, hset]
  simp only [accessorsNamed, Name.accessorOfField, Name.setterOfField, String.append_assoc]

/-- A field of the entity is stored in a column. -/
def HasColumn (e : Entity) (name column : String) : Prop :=
  ∃ d, e.fields.get? name = some d ∧ .column column ∈ e.annotations name d

/-- The entity has the fields of a map, and their constants for columns. -/
structure NamesFields (e : Entity) (fields : FieldMap) : Prop where
  keys : e.fields.keys = fields.keys
  columnOf : ∀ name ∈ fields.keys, e.columnOf name = Name.constant name

/-- No two fields of the entity have one column, one getter or one setter. -/
structure KeepsApart (e : Entity) : Prop where
  columns : ∀ a b column, e.HasColumn a column → e.HasColumn b column → a = b
  getters : (e.fields.keys.map Name.accessorOfField).Nodup
  setters : (e.fields.keys.map Name.setterOfField).Nodup

theorem columnOf_of_mem_annotations (h : .column column ∈ e.annotations name d) :
    column = e.columnOf name := by
  unfold annotations at h
  dsimp only at h
  split at h
  · simpa using h
  · split at h
    · simp at h
    · cases hkind : d.kind <;> cases hidentity : d.hasIdentity <;> simp_all

theorem NamesFields.column_eq (h : e.NamesFields fields) (hcolumn : e.HasColumn name column) :
    column = Name.constant name := by
  obtain ⟨d, hd, hmem⟩ := hcolumn
  have hname : name ∈ fields.keys :=
    h.keys ▸ NameMap.contains_iff_mem_keys.1 (NameMap.contains_iff.2 ⟨d, hd⟩)
  rw [columnOf_of_mem_annotations hmem, h.columnOf name hname]

theorem NamesFields.keepsApart_iff (h : e.NamesFields fields) :
    e.KeepsApart ↔
      Set.InjOn Name.constant {name | ∃ column, e.HasColumn name column} ∧
        Set.InjOn Name.capitalize {name | name ∈ fields.keys} := by
  have hget : (e.fields.keys.map Name.accessorOfField).Nodup ↔
      Set.InjOn Name.capitalize {name | name ∈ fields.keys} := by
    rw [List.nodup_map_iff_inj_on (NameMap.keys_nodup _), h.keys]
    simp only [Name.accessorOfField, String.append_right_inj]
    exact Iff.rfl
  have hset : (e.fields.keys.map Name.setterOfField).Nodup ↔
      Set.InjOn Name.capitalize {name | name ∈ fields.keys} := by
    rw [List.nodup_map_iff_inj_on (NameMap.keys_nodup _), h.keys]
    simp only [Name.setterOfField, String.append_right_inj]
    exact Iff.rfl
  constructor
  · rintro ⟨hcolumns, hgetters, -⟩
    refine ⟨?_, hget.1 hgetters⟩
    rintro a ⟨column, ha⟩ b ⟨column', hb⟩ heq
    rw [h.column_eq ha] at ha
    rw [h.column_eq hb, ← heq] at hb
    exact hcolumns a b _ ha hb
  · rintro ⟨hconstants, hcapitals⟩
    refine ⟨fun a b column ha hb => ?_, hget.2 hcapitals, hset.2 hcapitals⟩
    exact hconstants ⟨column, ha⟩ ⟨column, hb⟩ ((h.column_eq ha).symm.trans (h.column_eq hb))

theorem NamesFields.congr (h : e.NamesFields fields) (hkeys : e'.fields.keys = e.fields.keys)
    (hconstants : e'.constantNames = e.constantNames) : e'.NamesFields fields := by
  refine ⟨hkeys.trans h.keys, fun name hname => ?_⟩
  have hcolumn := h.columnOf name hname
  rwa [Entity.columnOf, ← hconstants] at hcolumn

theorem keys_retarget (stubType target : String) :
    (e.retarget stubType target).fields.keys = e.fields.keys := by
  apply NameMap.keys_eq_of_isSome_get?
  intro name
  rw [get?_retarget]
  split
  · exact Option.isSome_map
  · rfl

end Entity

namespace ClassGraph

variable {g : ClassGraph} {c : StubClass} {rc : ResolvedClass}

/-! ## What is generated for a class -/

theorem namesFields_entity {corrections : List OwnershipCorrection}
    (h : (g.entity corrections rc).fields.keys = rc.fields.keys) :
    (g.entity corrections rc).NamesFields rc.fields := by
  refine ⟨h, fun name hname => ?_⟩
  rw [← h, ← NameMap.contains_iff_mem_keys, NameMap.contains_iff] at hname
  obtain ⟨d, hd⟩ := hname
  have hconstants : (g.entity corrections rc).constantNames =
      (g.entity corrections rc).fields.map fun field _ => Name.constant field := rfl
  rw [Entity.columnOf, hconstants, NameMap.get?_map, hd]
  rfl

/-- Generated entities have the fields of a field map, and their constants for columns. -/
theorem namesFields_of_entityContext (hg : g.Accepted) (hc : c ∈ g.classes.classes)
    {t : EntityTree} (h : (g.entityContext c).result = .ok t) :
    ∀ e ∈ t.values, ∃ fields, g.Inspected e.stubClass fields ∧ e.NamesFields fields := by
  obtain ⟨resolved, hr, h⟩ := Diagnosed.result_bind_eq_ok.1 h
  refine forall_of_entityTree ?_ ?_ ?_ h
  · rintro e stubType target ⟨fields, hfields, hnames⟩
    exact ⟨fields, hfields, hnames.congr (Entity.keys_retarget stubType target) rfl⟩
  · intro stubType name target c resolved hfind hr e he
    have hc := ClassSet.mem_of_find? hfind
    rcases mem_values_strangerEntities_iff.1 he with rfl | ⟨t', ht', rc, hrc, rfl⟩
    · have hnames : (g.entity [] resolved.value).NamesFields resolved.value.fields :=
        namesFields_entity rfl
      exact ⟨_, inspected_of_resolveTree hg hc hr resolved.value_mem_values, hnames.congr rfl rfl⟩
    · have hrc := Tree.mem_values_iff.2 (.inr ⟨t', ht', hrc⟩)
      exact ⟨_, inspected_of_resolveTree hg hc hr hrc, namesFields_entity rfl⟩
  · intro e he
    rcases mem_values_ownEntities_iff.1 he with rfl | ⟨t', ht', rc, hrc, rfl⟩
    · exact ⟨_, inspected_of_resolveTree hg hc hr resolved.value_mem_values,
        (namesFields_entity (reflects_entity g _ resolved.value).keys).congr rfl rfl⟩
    · have hrc := Tree.mem_values_iff.2 (.inr ⟨t', ht', hrc⟩)
      exact ⟨_, inspected_of_resolveTree hg hc hr hrc,
        namesFields_entity (reflects_entity g _ rc).keys⟩

/-- Generated field interfaces have the constants of a field map. -/
theorem namesFields_of_fieldsContext (hg : g.Accepted) (hc : c ∈ g.classes.classes)
    {t : FieldsTree} (h : (g.fieldsContext c).result = .ok t) :
    ∀ f ∈ t.values, ∃ fields, g.Inspected f.stubClass fields ∧ f.NamesFields fields := by
  intro f hf
  obtain ⟨rc, nested, hinspected, heq⟩ := exists_of_mem_fieldsContext hg hc h hf
  exact ⟨rc.fields, hinspected, (congrArg FieldsInterface.constants heq :)⟩

/-- The name of a field is in lower camel case if its accessor's is plain and no annotation gives
the field another one. -/
theorem isLowerCamel_nameOf {r : Resolver} {method : MethodDef}
    (hplain : Name.isPlain method.name = true)
    (hname : (Resolver.declaredField? (r.classes.declaredFields c) method.name).bind
      (·.nameOverride) = none) : Name.isLowerCamel (r.nameOf c method) = true := by
  rw [Resolver.nameOf, Resolver.fieldName, hname]
  exact Name.isLowerCamel_fieldOfAccessor hplain

/-- **The names of a field are its own**, its constant in a field interface, its column and its
accessors in an entity, exactly as far as the constants and the capitalized names of the fields are
different; the names of the generated accessors are made of the latter. Of several fields with one
constant the last has it in the interface. All is well with fields whose names are in lower camel
case. -/
theorem field_names_apart_iff (hg : g.Accepted) (hc : c ∈ g.classes.classes) :
    (∀ t, (g.fieldsContext c).result = .ok t → ∀ f ∈ t.values, ∃ fields,
      g.Inspected f.stubClass fields ∧
      (f.KeepsApart fields ↔ Set.InjOn Name.constant {name | name ∈ fields.keys}) ∧
      ∀ constant, f.constants.get? constant =
        (fields.keys.filter (Name.constant · = constant)).getLast?) ∧
    (∀ t, (g.entityContext c).result = .ok t → ∀ e ∈ t.values, ∃ fields,
      g.Inspected e.stubClass fields ∧ e.fields.keys = fields.keys ∧
      (e.KeepsApart ↔
        Set.InjOn Name.constant {name | ∃ column, e.HasColumn name column} ∧
          Set.InjOn Name.capitalize {name | name ∈ fields.keys}) ∧
      ∀ name d, e.accessorsCode name d =
        e.accessorsNamed (Name.accessorOfField name) (Name.setterOfField name) name d) ∧
    ∀ d fields, (g.fieldMap d).result = .ok fields →
      (∀ method ∈ (g.resolverOf d).keptAccessors d,
        Name.isLowerCamel ((g.resolverOf d).nameOf d method) = true) →
      Set.InjOn Name.constant {name | name ∈ fields.keys} ∧
        Set.InjOn Name.capitalize {name | name ∈ fields.keys} := by
  refine ⟨fun t ht f hf => ?_, fun t ht e he => ?_, fun d fields hfields hcamel => ?_⟩
  · obtain ⟨fields, hfields, hnames⟩ := namesFields_of_fieldsContext hg hc ht f hf
    exact ⟨fields, hfields, hnames.keepsApart_iff, hnames.get?_eq⟩
  · obtain ⟨fields, hfields, hnames⟩ := namesFields_of_entityContext hg hc ht e he
    exact ⟨fields, hfields, hnames.keys, hnames.keepsApart_iff, e.accessorsCode_eq⟩
  · have hkeys : ∀ name ∈ fields.keys, Name.isLowerCamel name = true := by
      intro name hname
      rw [← NameMap.contains_iff_mem_keys, NameMap.contains_iff] at hname
      obtain ⟨descriptor, hd⟩ := hname
      obtain ⟨method, hfirst, rfl, -⟩ := Resolver.exists_first_of_get? hfields hd
      exact hcamel method (mem_of_mem_firstOfEach hfirst)
    exact ⟨fun a ha b hb => Name.constant_injective (hkeys a ha) (hkeys b hb),
      fun a ha b hb => Name.capitalize_injective (hkeys a ha) (hkeys b hb)⟩

/-- Letters and memos have a note and a text; an annotation calls the text of a memo a note as well,
with a capital. -/
def letters : ClassGraph :=
  .build ⟨ClassDef.layoutAll none 0
    [⟨"a", "Letter", false, none, [],
        [⟨"getNote", [], "java.lang.String"⟩, ⟨"getText", [], "java.lang.String"⟩], []⟩,
      ⟨"a", "Memo", false, none, [⟨"text", "java.lang.String", some "Note", []⟩],
        [⟨"getNote", [], "java.lang.String"⟩, ⟨"getText", [], "java.lang.String"⟩], []⟩]⟩ {}

theorem accepted_letters : letters.Accepted :=
  accepted_of_fault?_eq_none (by decide) (by decide)

theorem contexts_letter : ∃ c ∈ letters.classes.classes, c.qualifiedName = "a.Letter" ∧
    (letters.fieldMap c).result.isOk = true ∧
    (letters.entityContext c).result.toOption.map (fun t => t.value.stubClass) = some "a.Letter" ∧
    (letters.fieldsContext c).result.toOption.map (fun t => t.value.stubClass) = some "a.Letter" ∧
    (∀ d ∈ letters.classes.classes, d.qualifiedName = "a.Letter" → d = c) ∧
    ∀ method ∈ (letters.resolverOf c).keptAccessors c,
      Name.isPlain method.name = true ∧
        (Resolver.declaredField? (letters.classes.declaredFields c) method.name).bind
          (·.nameOverride) = none := by
  decide +kernel

/-- A letter's note and text have names of their own everywhere. -/
theorem letter_texts_apart : ∃ c ∈ letters.classes.classes, c.qualifiedName = "a.Letter" ∧
    ∃ fields, (letters.fieldMap c).result = .ok fields ∧
      (∃ t, (letters.fieldsContext c).result = .ok t ∧ FieldsInterface.KeepsApart t.value fields) ∧
      ∃ t, (letters.entityContext c).result = .ok t ∧ Entity.KeepsApart t.value := by
  obtain ⟨c, hc, hname, hok, hentity, hinterface, honly, hplain⟩ := contexts_letter
  obtain ⟨fields, hfields⟩ := Diagnosed.exists_of_isOk hok
  obtain ⟨hinterfaces, hentities, hcamel⟩ := field_names_apart_iff accepted_letters hc
  obtain ⟨hconstants, hcapitals⟩ := hcamel c fields hfields fun method hmethod =>
    isLowerCamel_nameOf (hplain method hmethod).1 (hplain method hmethod).2
  -- there is one field map for the letter
  have hsame : ∀ {fields'}, letters.Inspected "a.Letter" fields' → fields' = fields := by
    rintro fields' ⟨d, hd, hdname, hdfields, -⟩
    rw [honly d hd hdname, hfields] at hdfields
    exact (Except.ok.inj hdfields).symm
  obtain ⟨t, ht, hstub⟩ := Diagnosed.exists_of_toOption hinterface
  obtain ⟨t', ht', hstub'⟩ := Diagnosed.exists_of_toOption hentity
  refine ⟨c, hc, hname, fields, hfields, ⟨t, ht, ?_⟩, t', ht', ?_⟩
  · obtain ⟨fields', hinspected, happart, -⟩ := hinterfaces t ht t.value t.value_mem_values
    obtain rfl := hsame (hstub ▸ hinspected)
    exact happart.2 hconstants
  · obtain ⟨fields', hinspected, hkeys, happart, -⟩ := hentities t' ht' t'.value t'.value_mem_values
    obtain rfl := hsame (hstub' ▸ hinspected)
    refine happart.2 ⟨hconstants.mono ?_, hcapitals⟩
    rintro name ⟨column, d, hd, -⟩
    exact hkeys ▸ NameMap.contains_iff_mem_keys.1 (NameMap.contains_iff.2 ⟨d, hd⟩)

theorem contexts_memo : ∃ c ∈ letters.classes.classes, c.qualifiedName = "a.Memo" ∧
    (letters.fieldMap c).result.toOption.map (·.keys) = some ["Note", "note"] ∧
    (letters.fieldsContext c).result.toOption.map (fun t => t.value.constants.entries) =
      some [("NOTE", "note")] ∧
    (letters.entityContext c).result.toOption.map (fun t => (t.value.fields.keys,
      (t.value.fields.get? "Note").map (t.value.annotations "Note"),
      (t.value.fields.get? "note").map (t.value.annotations "note"))) =
      some (["Note", "note"], some [.column "NOTE"], some [.column "NOTE"]) := by
  decide +kernel

/-- Both texts of a memo have one constant, which stands for the second, one column, and one pair of
accessors. -/
theorem memo_texts_meet : letters.Accepted ∧
    ∃ c ∈ letters.classes.classes, c.qualifiedName = "a.Memo" ∧
      ∃ fields, (letters.fieldMap c).result = .ok fields ∧ fields.keys = ["Note", "note"] ∧
        ¬ Set.InjOn Name.constant {name | name ∈ fields.keys} ∧
        ¬ Set.InjOn Name.capitalize {name | name ∈ fields.keys} ∧
        (∃ t, (letters.fieldsContext c).result = .ok t ∧
          t.value.constants.entries = [("NOTE", "note")] ∧
          ¬ FieldsInterface.KeepsApart t.value fields) ∧
        ∃ t, (letters.entityContext c).result = .ok t ∧ t.value.fields.keys = ["Note", "note"] ∧
          Entity.HasColumn t.value "Note" "NOTE" ∧ Entity.HasColumn t.value "note" "NOTE" ∧
          ¬ Entity.KeepsApart t.value := by
  obtain ⟨c, hc, hname, hmap, hinterface, hentity⟩ := contexts_memo
  obtain ⟨fields, hfields, hkeys⟩ := Diagnosed.exists_of_toOption hmap
  obtain ⟨t, ht, hentries⟩ := Diagnosed.exists_of_toOption hinterface
  obtain ⟨t', ht', h⟩ := Diagnosed.exists_of_toOption hentity
  simp only [Prod.mk.injEq, Option.map_eq_some_iff] at h
  obtain ⟨hkeys', ⟨first, hfirst, hfirstColumn⟩, second, hsecond, hsecondColumn⟩ := h
  have hmem : "Note" ∈ fields.keys ∧ "note" ∈ fields.keys := by
    rw [hkeys]
    decide
  have hconstant : Name.constant "Note" = "NOTE" ∧ Name.constant "note" = "NOTE" := by
    decide +kernel
  have hcapital : Name.capitalize "Note" = Name.capitalize "note" := by decide +kernel
  have hne : "Note" ≠ "note" := by decide
  have hcolumn :
      Entity.HasColumn t'.value "Note" "NOTE" ∧ Entity.HasColumn t'.value "note" "NOTE" :=
    ⟨⟨first, hfirst, hfirstColumn ▸ List.mem_singleton.2 rfl⟩,
      second, hsecond, hsecondColumn ▸ List.mem_singleton.2 rfl⟩
  refine ⟨accepted_letters, c, hc, hname, fields, hfields, hkeys, fun hinj => ?_, fun hinj => ?_,
    ⟨t, ht, hentries, fun happart => ?_⟩, t', ht', hkeys', hcolumn.1, hcolumn.2, fun happart => ?_⟩
  · exact hne (hinj hmem.1 hmem.2 (hconstant.1.trans hconstant.2.symm))
  · exact hne (hinj hmem.1 hmem.2 hcapital)
  · have hget := happart.get? "Note" hmem.1
    rw [hconstant.1, NameMap.get?, hentries] at hget
    exact absurd hget (by decide)
  · exact hne (happart.columns _ _ _ hcolumn.1 hcolumn.2)

end ClassGraph
end EntityGen
