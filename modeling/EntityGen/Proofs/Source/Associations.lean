import EntityGen.Proofs.Plan.FieldMaps
import EntityGen.Source.Entity

/-! # Annotations of fields and the entities they refer to

A field of a class is stored as a reference to another row or as a part of its own, and an entity is
generated with rows of its own or as a part of other rows. The first depends on the identity of the
field's type, the second on the place of the entity in its tree (`isEmbedded_iff`).

**Main** (`associations_match_iff`): where a field has such an annotation it fits the entity exactly
if the type has an identity and is not in an array for an entity at the root of its tree, and not
otherwise. So an array of top-level classes with an identity is stored as parts of a row
(`array_stored_as_parts`). -/

namespace EntityGen

/-! ## Annotations -/

namespace Annotation

/-- Whether a field is stored as a reference to rows of their own. -/
def isReference : Annotation → Bool
  | oneToMany | manyToOne => true
  | _ => false

/-- Whether a field is stored as a part of its row, or in rows that belong to it. -/
def isPart : Annotation → Bool
  | elementCollection | embedded => true
  | _ => false

end Annotation

namespace Entity

/-- References lead to entities with rows of their own, which are classes with `@Entity`; parts lead
to such as have none, with `@Embeddable`. -/
def Fits (target : Entity) (annotations : List Annotation) : Prop :=
  (∀ a ∈ annotations, a.isReference = true → target.isEmbedded = false) ∧
    ∀ a ∈ annotations, a.isPart = true → target.isEmbedded = true

variable {e : Entity} {fields : FieldMap} {field : String} {d : FieldDescriptor}

/-- The annotations of a field fit an entity unless they are about rows and say the contrary. -/
theorem fits_annotations_iff (e : Entity) (field : String) (d : FieldDescriptor) (target : Entity) :
    target.Fits (e.annotations field d) ↔
      e.isIdentity field = true ∧ e.isEmbedded = false ∨ d.isAbstract = true ∨
        d.kind.isPlain = true ∨ (target.isEmbedded = false ↔ d.hasIdentity = true) := by
  unfold annotations
  dsimp only
  split
  · next hidentity =>
    rw [Bool.and_eq_true, Bool.not_eq_true'] at hidentity
    simp [Fits, Annotation.isReference, Annotation.isPart, hidentity]
  · next hidentity =>
    rw [Bool.and_eq_true, Bool.not_eq_true'] at hidentity
    split
    · next habstract =>
      simp [Fits, Annotation.isReference, Annotation.isPart, habstract]
    · next habstract =>
      cases d.kind <;> cases d.hasIdentity <;>
        simp [Fits, Annotation.isReference, Annotation.isPart, FieldKind.isPlain,
          habstract, hidentity]

/-- Constructors copy a field under the stub type that its class has for it. -/
theorem stubTypeOf_eq {current name : String} {d d' : FieldDescriptor}
    (h : e.Corrects current fields) (hd' : fields.get? name = some d')
    (hsame : e.SameField name d d') : e.stubTypeOf name d = d'.stubType := by
  unfold stubTypeOf
  split
  · next k hk =>
    have hfield : k.field = name := by simpa using List.find?_some hk
    obtain ⟨d₀, hd₀, -, hstub⟩ := h k (List.mem_of_find?_eq_some hk)
    rw [hfield, hd'] at hd₀
    cases hd₀
    exact hstub
  · next hnone =>
    rcases hsame with rfl | ⟨⟨k, hk, hfield⟩, -⟩
    · rfl
    · exact absurd (by simpa using hfield) (List.find?_eq_none.1 hnone k hk)

end Entity

/-! ## Planned fields -/

namespace ClassGraph

variable {g : ClassGraph} {root : StubClass} {p : PlannedClass} {plan : Plan} {e : Entity}

theorem isEmbedded_value (hg : g.Accepted) (hroot : root ∈ g.roots)
    (hp : (g.planClass root).result = .ok p) : p.entity.value.isEmbedded = false := by
  obtain ⟨t, moves, -, ht, hown, -, -⟩ := own_planClass hg hroot hp
  have hvalue : p.entity.value = (g.ownEntities root t).value.retargetAll moves :=
    (congrArg Tree.value hown).trans (Tree.value_map _ _)
  rw [hvalue, Entity.keep_retargetAll (f := (·.isEmbedded)) fun _ _ _ => rfl]
  have hcls : t.value.cls = root := value_cls_of_resolveTree ht
  exact (congrArg StubClass.isNested hcls).trans (mem_roots_iff.1 hroot).2.1

theorem isEmbedded_of_mem_child (hg : g.Accepted) (hroot : root ∈ g.roots)
    (hp : (g.planClass root).result = .ok p) {n : EntityTree} (hn : n ∈ p.entity.children)
    (he : e ∈ n.values) : e.isEmbedded = true := by
  obtain ⟨t, moves, strangers, ht, hown, hchildren, hout⟩ := own_planClass hg hroot hp
  have hkeep : ∀ moves (e : Entity), (e.retargetAll moves).isEmbedded = e.isEmbedded :=
    fun _ _ => Entity.keep_retargetAll (f := (·.isEmbedded)) fun _ _ _ => rfl
  have hstub := (stubClass_of_planClass hp).1
  cases hin : Name.isWithin n.value.stubClass root.qualifiedName with
  | true =>
    have hmem : n ∈ p.entity.own.children := by
      rw [EntityTree.own, Tree.children_node, List.mem_filter, hstub]
      exact ⟨hn, hin⟩
    rw [hown, Tree.children_map, ownEntities, Tree.children_mapRoot, Tree.children_map,
      List.map_map] at hmem
    obtain ⟨m, -, rfl⟩ := List.mem_map.1 hmem
    rw [Function.comp_apply, Tree.values_map, Tree.values_map, List.map_map] at he
    obtain ⟨rc, -, rfl⟩ := List.mem_map.1 he
    exact hkeep moves _
  | false =>
    obtain ⟨stubType, c, resolved, name, target, moves, -, -, rfl⟩ :=
      exists_embeds_of_outside hg hroot hp hn hin
    rw [Tree.values_map] at he
    obtain ⟨e₀, he₀, rfl⟩ := List.mem_map.1 he
    rw [hkeep]
    rcases mem_values_strangerEntities_iff.1 he₀ with rfl | ⟨-, -, rc, -, rfl⟩ <;> rfl

/-- Only the entity at the root of its tree has rows of its own. -/
theorem isEmbedded_iff (hg : g.Accepted) (hroot : root ∈ g.roots)
    (hp : (g.planClass root).result = .ok p) (he : e ∈ Tree.values p.entity) :
    e.isEmbedded = false ↔ e = p.entity.value := by
  constructor
  · intro hrows
    rcases Tree.mem_values_iff.1 he with rfl | ⟨n, hn, he⟩
    · rfl
    · rw [isEmbedded_of_mem_child hg hroot hp hn he] at hrows
      cases hrows
  · rintro rfl
    exact isEmbedded_value hg hroot hp

/-- Whether the type of a field has an identity is what the field's stub type is asked for; a moved
type has none. -/
theorem hasIdentity_of_madeFrom {fields : FieldMap} {field : String} {d : FieldDescriptor}
    (h : g.MadeFrom root e fields) (hd : e.fields.get? field = some d) :
    d.hasIdentity = (!d.kind.isPlain && !d.kind.isArray &&
      g.classes.hasField (e.stubTypeOf field d) g.config.identityName) := by
  obtain ⟨⟨c, hc, hname, hfields, -⟩, hreflects, hcorrects⟩ := h
  obtain ⟨d', hd', hsame⟩ := hreflects.exists_same hd
  have hrule := (Resolver.rule_of_fieldMap hfields hd').1.hasIdentity_eq
  rw [Entity.stubTypeOf_eq hcorrects hd' hsame]
  rcases hsame with rfl | ⟨-, heq⟩
  · exact hrule
  · rw [heq]
    exact hrule

/-- **Annotations and entities fit** for values without a class, for fields that are not stored, and
otherwise if having rows of its own is for the entity what having an identity is for the field's
type, which arrays do not ask for. -/
theorem associations_match_iff (hg : g.Accepted) (hplan : g.plan = .ok plan) :
    ∀ t ∈ plan.entities, ∀ e ∈ t.values, ∀ field d, e.fields.get? field = some d →
      ∀ t' ∈ plan.entities, ∀ target ∈ t'.values, d.resolvedType = some target.targetName →
        (target.Fits (e.annotations field d) ↔
          e.isIdentity field = true ∧ e.isEmbedded = false ∨ d.isAbstract = true ∨
            d.kind.isPlain = true ∨
            (target = t'.value ↔ d.kind.isArray = false ∧
              g.classes.hasField (e.stubTypeOf field d) g.config.identityName = true)) := by
  intro t ht e he field d hd t' ht' target htarget _
  obtain ⟨root, hroot, p, hp, rfl⟩ := (exists_root_of_mem_plan hplan).1 t ht
  obtain ⟨root', hroot', p', hp', rfl⟩ := (exists_root_of_mem_plan hplan).1 t' ht'
  obtain ⟨fields, hmade⟩ := madeFrom_of_mem_planClass hg hroot hp he
  rw [Entity.fits_annotations_iff, isEmbedded_iff hg hroot' hp' htarget,
    hasIdentity_of_madeFrom hmade hd]
  cases d.kind.isPlain <;> simp

/-- A folder with one document on top of an array of others; documents have an identity. -/
def cabinet : ClassGraph :=
  build ⟨ClassDef.layoutAll none 0
    [⟨"a", "Document", false, none, [], [⟨"getId", [], "java.lang.Long"⟩], []⟩,
      ⟨"a", "Folder", false, none, [], [⟨"getTop", [], "a.Document"⟩,
        ⟨"getOthers", [], "a.Document[]"⟩], []⟩]⟩ {}

theorem accepted_cabinet : cabinet.Accepted :=
  accepted_of_fault?_eq_none (by decide) (by decide)

theorem exists_plan_cabinet : ∃ plan, cabinet.plan = .ok plan :=
  exists_plan_of_isOk (by decide +kernel)

/-- Both fields of a folder lead to the documents' entity, each in its own way. -/
theorem planClass_cabinet : ∃ folder ∈ cabinet.roots, ∃ document ∈ cabinet.roots,
    ((cabinet.plannedField folder "top").map fun (e, d) =>
      (d.resolvedType, d.kind, e.stubTypeOf "top" d)) =
        some (some "a.DocumentJPA", .complexType, "a.Document") ∧
    ((cabinet.plannedField folder "others").map fun (e, d) =>
      (d.resolvedType, e.annotations "others" d)) =
        some (some "a.DocumentJPA", [.elementCollection]) ∧
    ((cabinet.planClass document).result.toOption.map (·.entity.value.targetName)) =
      some "a.DocumentJPA" := by
  rw [show cabinet.roots = cabinet.classes.classes from roots_eq (by decide) (by decide)]
  decide +kernel

theorem document_stored_as_reference :
    ∃ plan, cabinet.plan = .ok plan ∧ ∃ t ∈ plan.entities, ∃ e ∈ t.values, ∃ d,
      e.fields.get? "top" = some d ∧ ∃ t' ∈ plan.entities, ∃ target ∈ t'.values,
        d.resolvedType = some target.targetName ∧
          target.Fits (e.annotations "top" d) := by
  obtain ⟨plan, hplan⟩ := exists_plan_cabinet
  obtain ⟨folder, hfolder, document, hdocument, htop, -, htarget⟩ := planClass_cabinet
  obtain ⟨p, d, hp, hd, h⟩ := exists_of_plannedField htop
  simp only [Prod.mk.injEq] at h
  obtain ⟨hresolved, hkind, hstub⟩ := h
  obtain ⟨p', hp', htarget⟩ := Diagnosed.exists_of_toOption htarget
  have ht := mem_entities_of_planClass hplan hfolder hp
  have ht' := mem_entities_of_planClass hplan hdocument hp'
  have htype : d.resolvedType = some p'.entity.value.targetName := by rw [hresolved, htarget]
  refine ⟨plan, hplan, _, ht, _, p.entity.value_mem_values, d, hd, _, ht', _,
    p'.entity.value_mem_values, htype, ?_⟩
  rw [associations_match_iff accepted_cabinet hplan _ ht _ p.entity.value_mem_values "top" d hd
    _ ht' _ p'.entity.value_mem_values htype, hkind, hstub]
  exact .inr (.inr (.inr ⟨fun _ => ⟨rfl, by decide +kernel⟩, fun _ => rfl⟩))

/-- An array of documents is stored as parts of a row, though documents have rows of their own. -/
theorem array_stored_as_parts : cabinet.Accepted ∧
    ∃ plan, cabinet.plan = .ok plan ∧ ∃ t ∈ plan.entities, ∃ e ∈ t.own.values, ∃ d,
      e.fields.get? "others" = some d ∧ ∃ t' ∈ plan.entities, ∃ target ∈ t'.values,
        d.resolvedType = some target.targetName ∧
          e.annotations "others" d = [.elementCollection] ∧ target.isEmbedded = false := by
  obtain ⟨plan, hplan⟩ := exists_plan_cabinet
  obtain ⟨folder, hfolder, document, hdocument, -, hothers, htarget⟩ := planClass_cabinet
  obtain ⟨p, d, hp, hd, h⟩ := exists_of_plannedField hothers
  simp only [Prod.mk.injEq] at h
  obtain ⟨hresolved, hannotations⟩ := h
  obtain ⟨p', hp', htarget⟩ := Diagnosed.exists_of_toOption htarget
  have ht := mem_entities_of_planClass hplan hfolder hp
  have ht' := mem_entities_of_planClass hplan hdocument hp'
  have htype : d.resolvedType = some p'.entity.value.targetName := by rw [hresolved, htarget]
  exact ⟨accepted_cabinet, plan, hplan, _, ht, _, p.entity.own.value_mem_values, d, hd, _, ht', _,
    p'.entity.value_mem_values, htype, hannotations,
    isEmbedded_value accepted_cabinet hdocument hp'⟩

end ClassGraph

end EntityGen
