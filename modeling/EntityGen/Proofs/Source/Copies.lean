import EntityGen.Proofs.Plan.FieldMaps
import EntityGen.Proofs.TypeName
import EntityGen.Source.Entity

/-! # Fields that constructors copy

A constructor assigns what the stub's accessor returns to some fields as it is, so the declared type
of such a field should have the outer form of the accessor's return type (`TypeForm`). Fields hold
lists of classes only, whatever the stub has.

**Main** (`form_of_copied`): among the fields that are copied as they are, those of plain values and
the lists have the form that the accessor returns, and no others; for a type that was moved, chance
can make the new name the old one. So a set of text is declared as a list
(`set_copied_to_list`). -/

namespace EntityGen

/-! ## Outer forms -/

/-- The outer form of a type: what holds its values, or the one class that it is. -/
inductive TypeForm where
  | array
  | set
  | list
  | single (name : String)
  deriving DecidableEq, Repr

namespace TypeForm

/-- The form of a type; any separator of a name counts as a dot. -/
def of (type : String) : TypeForm :=
  let type := Name.dotted type
  if (TypeName.arrayElement? type).isSome then .array
  else
    let outer := Text.trim (String.ofList (type.toList.takeWhile (· ≠ '<')))
    if outer = "java.util.List" then .list
    else if outer = "java.util.Set" then .set
    else .single type

end TypeForm

namespace Name

theorem length_suffixed (name suffix : String) :
    name.length + suffix.length ≤ (suffixed name suffix).length := by
  have hone : ∀ c : Char, 1 ≤ (if c = '$' then suffix.toList ++ ['.'] else [c]).length := by
    intro c
    split <;> simp
  have hreplace : ∀ text : List Char,
      text.length ≤ (Text.replace '$' (suffix.toList ++ ['.']) text).length := by
    intro text
    induction text with
    | nil => exact Nat.zero_le _
    | cons c text ih =>
      have hc := hone c
      rw [Text.replace, List.flatMap_cons, List.length_append, List.length_cons, ← Text.replace]
      omega
  have hname := hreplace name.toList
  rw [String.length_toList] at hname
  rw [suffixed, String.length_append, String.length_ofList]
  omega

end Name

namespace TypeForm

theorem of_dotted (type : String) : of (Name.dotted type) = of type := by
  rw [of, of, Name.dotted_dotted]

theorem of_array (element : String) : of (element ++ "[]") = .array := by
  have helement : TypeName.arrayElement? (Name.dotted (element ++ "[]")) =
      some (Name.dotted element) := by
    rw [TypeName.arrayElement?_eq_some_iff, Name.dotted_append]
    rfl
  rw [of, helement]
  rfl

theorem of_list (element : String) : of ("java.util.List<" ++ element ++ ">") = .list := by
  have htype : Name.dotted ("java.util.List<" ++ element ++ ">") =
      TypeName.generic "java.util.List" (Name.dotted element) :=
    TypeName.dotted_generic "java.util.List" element
  have hnone :
      TypeName.arrayElement? (TypeName.generic "java.util.List" (Name.dotted element)) = none := by
    refine Option.eq_none_iff_forall_not_mem.2 fun other hother => ?_
    have heq := congrArg String.toList (TypeName.arrayElement?_eq_some_iff.1 hother)
    rw [TypeName.toList_generic, String.toList_append, ← List.cons_append, ← List.append_assoc,
      show "[]".toList = ['['] ++ [']'] from rfl, ← List.append_assoc] at heq
    exact absurd (List.append_inj_right' heq rfl) (by decide)
  have houter : String.ofList ((TypeName.generic "java.util.List"
      (Name.dotted element)).toList.takeWhile (· ≠ '<')) = "java.util.List" := by
    rw [TypeName.takeWhile_generic (by decide), String.ofList_toList]
  have htrim : Text.trim "java.util.List" = "java.util.List" := by decide
  simp only [of, htype, hnone, houter, htrim, Option.isSome_none, Bool.false_eq_true, if_false,
    if_true]

/-- A type that is neither an array nor a collection is one class. -/
theorem of_single {type : String} (hcollection : TypeName.isCollection (Name.dotted type) = false)
    (harray : TypeName.arrayElement? (Name.dotted type) = none) :
    of type = .single (Name.dotted type) := by
  rw [TypeName.isCollection, TypeName.collections] at hcollection
  simp only [List.contains_cons, List.contains_nil, Bool.or_false, Bool.or_eq_false_iff,
    beq_eq_false_iff_ne] at hcollection
  simp only [of, harray, Option.isSome_none, Bool.false_eq_true, if_false, if_neg hcollection.1,
    if_neg hcollection.2]

theorem eq_of_single {type name : String} (h : of type = .single name) :
    name = Name.dotted type := by
  unfold of at h
  dsimp only at h
  split at h
  · cases h
  · split at h
    · cases h
    · split at h
      · cases h
      · cases h
        rfl

end TypeForm

/-! ## Forms of return types -/

namespace Resolver

variable {r : Resolver} {returns : String}

/-- The declared type of a field has the form of the return type it comes from if it is plain, if
both are lists, or if both are the same class. -/
theorem form_declaredType {d : FieldDescriptor} (hkind : d.kind = (r.descriptor returns).kind)
    (hplain : d.kind.isPlain = true → d.resolvedType = (r.descriptor returns).resolvedType) :
    TypeForm.of d.declaredType = TypeForm.of (Text.trim returns) ↔
      d.kind.isPlain = true ∨
      d.kind = .collection ∧ TypeForm.of (Text.trim returns) = .list ∨
      (d.kind = .complexType ∨ d.kind = .innerClass) ∧
        Name.dotted d.typeName = Name.dotted (Text.trim returns) := by
  have hlist := TypeForm.of_list d.typeName
  rcases descriptor_cases r returns with h | h | ⟨element, htype, h⟩ | ⟨hcollection, hnone, h⟩
  · -- a plain value
    rw [h] at hkind hplain
    have hk : d.kind = .primitive := hkind
    have htype : d.typeName = Name.dotted (Text.trim returns) := by
      rw [FieldDescriptor.typeName, hplain (by rw [hk]; rfl)]
      rfl
    simp [FieldDescriptor.declaredType, hk, htype, TypeForm.of_dotted, FieldKind.isPlain]
  · -- a collection
    rw [h] at hkind
    have hk : d.kind = .collection := hkind
    simp [FieldDescriptor.declaredType, hk, hlist, FieldKind.isPlain, eq_comm]
  · have harray : TypeForm.of (Text.trim returns) = .array := by
      rw [← TypeForm.of_dotted, htype, TypeForm.of_array]
    rcases kind_array r element with hplainArray | hk | hk
    · -- an array of plain values
      rw [h, hplainArray] at hkind hplain
      have hk : d.kind = .arrayOfPrimitives := hkind
      simp [FieldDescriptor.declaredType, hk, harray, TypeForm.of_array, FieldKind.isPlain]
    all_goals
      -- an array of classes becomes a list
      rw [h, hk] at hkind
      simp [FieldDescriptor.declaredType, hkind, harray, hlist, FieldKind.isPlain]
  · -- a single class
    have hsingle : TypeForm.of (Text.trim returns) = .single (Name.dotted (Text.trim returns)) :=
      TypeForm.of_single hcollection hnone
    have hdeclared : TypeForm.of d.typeName = TypeForm.of (Text.trim returns) ↔
        Name.dotted d.typeName = Name.dotted (Text.trim returns) := by
      constructor
      · intro hform
        exact (TypeForm.eq_of_single (hform.trans hsingle)).symm
      · intro hname
        rw [← TypeForm.of_dotted, hname, TypeForm.of_dotted]
    have hk := kind_single r (Text.trim returns) (Name.dotted (Text.trim returns))
    rw [← h, ← hkind] at hk
    rcases hk with hk | hk <;>
      simp [FieldDescriptor.declaredType, hk, hdeclared, FieldKind.isPlain]

end Resolver

/-! ## Copied fields -/

namespace ClassGraph

variable {g : ClassGraph} {plan : Plan} {e : Entity} {field : String} {d : FieldDescriptor}
  {method : MethodDef}

/-- The name of an entity is longer than that of its stub. -/
theorem dotted_target_ne (hg : g.Accepted) {stub target : String}
    (h : g.targets.get? stub = some target) : Name.dotted target ≠ Name.dotted stub := by
  obtain ⟨c, hc, he, htarget, hname⟩ := exists_of_targets_get? hg h
  rw [targets_get?_of_eligible hg hc he] at htarget
  cases htarget
  intro heq
  have hlength := congrArg String.length heq
  have hstub : stub.length = c.binaryName.length := by
    rw [ClassSet.length_binaryName hg.wellFormed hc]
    rcases hname with hname | hname
    · rw [hname]
    · rw [hname, Name.length_dotted]
  have hsuffix : g.config.entitySuffix.length ≠ 0 := by
    simpa using hg.entitySuffix_ne
  have hlonger := Name.length_suffixed c.binaryName g.config.entitySuffix
  rw [Name.length_dotted, Name.length_dotted, hstub] at hlength
  omega

/-- A single class is not declared under the name that its accessor returns. -/
theorem dotted_typeName_ne (hg : g.Accepted) {c outermost : StubClass}
    (hmade : (g.resolver outermost).MadeBy c method field d)
    (hsingle : d.kind = .complexType ∨ d.kind = .innerClass) :
    Name.dotted d.typeName ≠ Name.dotted (Text.trim method.returns) := by
  obtain ⟨hkind, hresolved, -⟩ := hmade.types
  have htarget := Resolver.resolvedType_of_single _ _ (hkind ▸ hsingle)
  obtain ⟨target, hdefined⟩ :=
    Option.isSome_iff_exists.1 (Resolver.isDefined_of_isKept hmade.kept)
  have htype : d.typeName = target := by
    rw [FieldDescriptor.typeName, hresolved, hdefined]
    rfl
  rw [hdefined] at htarget
  rw [htype]
  intro hnames
  exact dotted_target_ne hg htarget.symm (hnames.trans (Name.dotted_dotted _).symm)

/-- A field of an entity comes from `method`, an accessor that the entity's class has or inherits;
a moved type has other names since. -/
def ComesFrom (g : ClassGraph) (e : Entity) (field : String) (d : FieldDescriptor)
    (method : MethodDef) : Prop :=
  ∃ c ∈ g.classes.classes, c.qualifiedName = e.stubClass ∧
    (∃ owner, (owner, method) ∈ g.classes.visibleAccessors c) ∧
    ∃ d', (g.resolver (g.classes.outermost c)).MadeBy c method field d' ∧ e.SameField field d d'

theorem ComesFrom.exists_accessor (h : g.ComesFrom e field d method) :
    ∃ c ∈ g.classes.classes, c.qualifiedName = e.stubClass ∧
      (∃ owner, (owner, method) ∈ g.classes.visibleAccessors c) ∧
      Resolver.fieldName (g.classes.declaredFields c) method.name = field ∧
      d.accessor = some method.name := by
  obtain ⟨c, hc, hname, hmethod, d', ⟨hfield, -, cast, -, hd'⟩, hsame⟩ := h
  refine ⟨c, hc, hname, hmethod, hfield.symm, ?_⟩
  have haccessor : d.accessor = d'.accessor := by
    rcases hsame with rfl | ⟨-, heq⟩
    · rfl
    · rw [heq]
  rw [haccessor, hd']

/-- A field that no correction names is as its class has it, and a corrected one is of a nested
class or a list. -/
theorem kind_of_same {root : StubClass} {fields : FieldMap} {d' : FieldDescriptor}
    (h : e.Corrects root.qualifiedName fields) (hd' : fields.get? field = some d')
    (hsame : e.SameField field d d') :
    d.kind = d'.kind ∧
      (d = d' ∨ (∃ k ∈ e.corrections, k.field = field) ∧
        (d.kind = .innerClass ∨ d.kind = .collection)) := by
  rcases hsame with rfl | ⟨⟨k, hk, rfl⟩, heq⟩
  · exact ⟨rfl, .inl rfl⟩
  · obtain ⟨d₀, hd₀, hstranger, -⟩ := h k hk
    rw [hd'] at hd₀
    cases hd₀
    have hkind : d.kind = d'.kind := by rw [heq]
    exact ⟨hkind, .inr ⟨⟨k, hk, rfl⟩, hkind ▸ Stranger.kind_of_isStranger hstranger⟩⟩

/-- The form of a field that is not cast, against the return type that it comes from. -/
theorem form_of_uncast (hg : g.Accepted) {root : StubClass} {fields : FieldMap}
    (h : g.MadeFrom root e fields) (hd : e.fields.get? field = some d)
    (hcast : e.castOf field d = none) :
    ∃ method, g.ComesFrom e field d method ∧
      (TypeForm.of (e.declaredType field d) = TypeForm.of (Text.trim method.returns) ↔
        d.kind.isPlain = true ∨
        d.kind = .collection ∧ TypeForm.of (Text.trim method.returns) = .list ∨
        (∃ k ∈ e.corrections, k.field = field) ∧ d.kind = .innerClass ∧
          Name.dotted d.typeName = Name.dotted (Text.trim method.returns)) := by
  obtain ⟨⟨c, hc, hname, hfields, -⟩, hreflects, hcorrects⟩ := h
  obtain ⟨d', hd', hsame⟩ := hreflects.exists_same hd
  obtain ⟨owner, method, hmethod, hmade⟩ := Resolver.source_of_fieldMap hfields hd'
  refine ⟨method, ⟨c, hc, hname, ⟨owner, hmethod⟩, d', hmade, hsame⟩, ?_⟩
  obtain ⟨hkind, hcases⟩ := kind_of_same hcorrects hd' hsame
  obtain ⟨hkind', hresolved, -⟩ := hmade.types
  have hplain : d.kind.isPlain = true → d.resolvedType = d'.resolvedType := by
    intro hplain
    rcases hcases with rfl | ⟨-, hk | hk⟩
    · rfl
    · rw [hk] at hplain
      cases hplain
    · rw [hk] at hplain
      cases hplain
  have hform := Resolver.form_declaredType (hkind.trans hkind') fun hp =>
    (hplain hp).trans hresolved
  rw [Entity.declaredType, hcast, TypeForm.of_dotted, hform]
  refine or_congr_right (or_congr_right ⟨fun ⟨hsingle, hnames⟩ => ?_, fun ⟨_, hk, hnames⟩ => ?_⟩)
  · rcases hcases with rfl | ⟨hcorrected, hk⟩
    · exact absurd hnames (dotted_typeName_ne hg hmade hsingle)
    · refine ⟨hcorrected, ?_, hnames⟩
      rcases hk with hk | hk
      · exact hk
      · rw [hk] at hsingle
        rcases hsingle with hsingle | hsingle <;> cases hsingle
  · exact ⟨.inr hk, hnames⟩

/-- **Copied fields have the form of what they copy** if they are plain or lists of what comes in a
list; a type that was moved has it if the new name is the accessor's own. -/
theorem form_of_copied (hg : g.Accepted) (hplan : g.plan = .ok plan) :
    ∀ t ∈ plan.entities, ∀ e ∈ t.values, ∀ field d, e.fields.get? field = some d →
      e.copyOf field d = .direct →
      ∃ method, g.ComesFrom e field d method ∧
        (TypeForm.of (e.declaredType field d) = TypeForm.of (Text.trim method.returns) ↔
          d.kind.isPlain = true ∨
          d.kind = .collection ∧ TypeForm.of (Text.trim method.returns) = .list ∨
          (∃ k ∈ e.corrections, k.field = field) ∧ d.kind = .innerClass ∧
            Name.dotted d.typeName = Name.dotted (Text.trim method.returns)) := by
  intro t ht e he field d hd hcopy
  obtain ⟨root, hroot, p, hp, rfl⟩ := (exists_root_of_mem_plan hplan).1 t ht
  obtain ⟨fields, hmade⟩ := madeFrom_of_mem_planClass hg hroot hp he
  refine form_of_uncast hg hmade hd ?_
  unfold Entity.copyOf at hcopy
  split at hcopy
  · cases hcopy
  · assumption

/-- A post with the list of its lines and the set of its tags. -/
def posts : ClassGraph :=
  build ⟨ClassDef.layoutAll none 0
    [⟨"a", "Post", false, none, [], [⟨"getLines", [], "java.util.List<java.lang.String>"⟩,
      ⟨"getTags", [], "java.util.Set<java.lang.String>"⟩], []⟩]⟩ {}

theorem accepted_posts : posts.Accepted :=
  accepted_of_fault?_eq_none (by decide) (by decide)

theorem exists_plan_posts : ∃ plan, posts.plan = .ok plan :=
  exists_plan_of_isOk (by decide +kernel)

/-- Both fields of posts are copied, and both are declared as lists. -/
theorem copied_posts : ∃ root ∈ posts.roots, root.qualifiedName = "a.Post" ∧
    ∀ field ∈ [("lines", "getLines"), ("tags", "getTags")],
      ((posts.plannedField root field.1).map fun (e, d) =>
        (e.copyOf field.1 d, e.declaredType field.1 d, d.kind, d.accessor)) =
        some (.direct, "java.util.List<java.lang.String>", .collection, some field.2) := by
  rw [show posts.roots = posts.classes.classes from roots_eq (by decide) (by decide)]
  decide +kernel

/-- Accessors of lines return lists. -/
theorem form_lines : ∀ c ∈ posts.classes.classes, ∀ a ∈ posts.classes.visibleAccessors c,
    Resolver.fieldName (posts.classes.declaredFields c) a.2.name = "lines" →
      TypeForm.of (Text.trim a.2.returns) = .list := by
  decide +kernel

theorem list_copied_to_list :
    ∃ plan, posts.plan = .ok plan ∧ ∃ t ∈ plan.entities, ∃ e ∈ t.values, ∃ d,
      e.fields.get? "lines" = some d ∧ e.copyOf "lines" d = .direct ∧
        ∃ method, posts.ComesFrom e "lines" d method ∧
          TypeForm.of (e.declaredType "lines" d) = TypeForm.of (Text.trim method.returns) := by
  obtain ⟨plan, hplan⟩ := exists_plan_posts
  obtain ⟨root, hroot, -, hfields⟩ := copied_posts
  obtain ⟨p, d, hp, hd, h⟩ := exists_of_plannedField (hfields ("lines", "getLines") (by decide))
  simp only [Prod.mk.injEq] at h
  obtain ⟨hcopy, -, hkind, -⟩ := h
  have ht := mem_entities_of_planClass hplan hroot hp
  obtain ⟨method, hfrom, hform⟩ :=
    form_of_copied accepted_posts hplan _ ht _ p.entity.value_mem_values "lines" d hd hcopy
  refine ⟨plan, hplan, _, ht, _, p.entity.value_mem_values, d, hd, hcopy, method, hfrom, ?_⟩
  obtain ⟨c, hc, -, ⟨owner, hmethod⟩, hfield, -⟩ := hfrom.exists_accessor
  have hlist : TypeForm.of (Text.trim method.returns) = .list :=
    form_lines c hc (owner, method) hmethod hfield
  rw [hform]
  exact .inr (.inl ⟨hkind, hlist⟩)

/-- The set of tags is copied into a field that is declared as a list. -/
theorem set_copied_to_list : posts.Accepted ∧
    ∃ plan, posts.plan = .ok plan ∧ ∃ t ∈ plan.entities, ∃ e ∈ t.values, ∃ d,
      e.fields.get? "tags" = some d ∧ e.copyOf "tags" d = .direct ∧
        ∃ c ∈ posts.classes.classes, c.qualifiedName = e.stubClass ∧ ∃ method ∈ c.accessors,
          d.accessor = some method.name ∧
            TypeForm.of (Text.trim method.returns) = .set ∧
            TypeForm.of (e.declaredType "tags" d) = .list := by
  obtain ⟨plan, hplan⟩ := exists_plan_posts
  obtain ⟨root, hroot, hname, hfields⟩ := copied_posts
  obtain ⟨p, d, hp, hd, h⟩ := exists_of_plannedField (hfields ("tags", "getTags") (by decide))
  simp only [Prod.mk.injEq] at h
  obtain ⟨hcopy, htype, -, haccessor⟩ := h
  have ht := mem_entities_of_planClass hplan hroot hp
  refine ⟨accepted_posts, plan, hplan, _, ht, _, p.entity.value_mem_values, d, hd, hcopy, root,
    (mem_roots_iff.1 hroot).1, (stubClass_of_planClass hp).1.symm, ?_⟩
  rw [haccessor, htype]
  have hset : ∀ c ∈ posts.classes.classes, c.qualifiedName = "a.Post" →
      ∃ method ∈ c.accessors, some "getTags" = some method.name ∧
        TypeForm.of (Text.trim method.returns) = .set ∧
        TypeForm.of "java.util.List<java.lang.String>" = .list := by
    decide +kernel
  exact hset root (mem_roots_iff.1 hroot).1 hname

end ClassGraph

end EntityGen
