import EntityGen.Field.Map
import EntityGen.Proofs.NameMap

/-! # Resolved types

What the descriptor of a return type says of the type in generated code:

* `stubType_dotted`: the stub type is spelled with dots only.
* `resolvedType_of_known`: a type with an entity has this entity, arrays of classes in scope apart.
* `resolvedType_of_nested`: a nested type has its entity, or is its own generated type in a
  collection.
* `innerArray_spec`: an array of classes in scope is named without a look at its entity.
* `descriptor_cases`, `kind_cases`: a type is a plain value, a collection, an array or a single
  class.
* `Rule.hasIdentity_eq`: all but plain values and arrays are asked for an identity. -/

namespace EntityGen

/-! ## Names without `$` -/

theorem Name.notMem_dotted (name : String) : '$' ∉ (Name.dotted name).toList := by
  rw [dotted, String.toList_ofList]
  exact Text.notMem_replace (by decide)

namespace TypeName

theorem mem_of_mem_closedName? {text name : List Char} (h : closedName? text = some name) {c : Char}
    (hc : c ∈ name) : c ∈ text := by
  unfold closedName? at h
  dsimp only at h
  split at h
  · next heq _ =>
    cases h
    exact (List.takeWhile_prefix _).subset (heq ▸ hc)
  · cases h

theorem mem_of_mem_firstArgument? {text name : List Char} (h : firstArgument? text = some name)
    {c : Char} (hc : c ∈ name) : c ∈ text := by
  induction text with
  | nil => cases h
  | cons x text ih =>
    rw [firstArgument?] at h
    refine List.mem_cons_of_mem _ ?_
    split at h
    · rcases Option.or_eq_some_iff.1 h with h | ⟨-, h⟩
      · exact mem_of_mem_closedName? h hc
      · exact ih h
    · exact ih h

/-- The element type of a collection has no separators of its own. -/
theorem notMem_argument {type : String} (h : '$' ∉ type.toList) : '$' ∉ (argument type).toList := by
  unfold argument argument?
  cases hf : firstArgument? type.toList with
  | none => decide
  | some name =>
    simp only [Option.map_some, Option.getD_some, String.toList_ofList]
    exact fun hm => h (mem_of_mem_firstArgument? hf hm)

theorem arrayElement?_eq_some_iff {type element : String} :
    arrayElement? type = some element ↔ type = element ++ "[]" := by
  rw [arrayElement?, Option.map_eq_some_iff]
  simp only [Text.stripEnd?_eq_some_iff]
  constructor
  · rintro ⟨rest, hrest, rfl⟩
    apply String.toList_injective
    rw [hrest, String.toList_append, String.toList_ofList]
    rfl
  · rintro rfl
    exact ⟨element.toList, by rw [String.toList_append]; rfl, String.ofList_toList⟩

end TypeName

namespace Resolver

variable {r : Resolver}

/-- The rule that made a descriptor, whatever a declaration has added to it since. -/
inductive Rule (r : Resolver) : FieldDescriptor → Prop
  | plain (kind : FieldKind) (type simpleName : String) (hkind : kind.isPlain = true)
      (h : '$' ∉ type.toList) : Rule r (.plain kind type simpleName)
  | collection (raw type : String) (h : '$' ∉ type.toList) : Rule r (r.collection raw type)
  | innerArray (element : String) (h : '$' ∉ element.toList)
      (hin : Name.isWithin element r.outermost.qualifiedName = true) :
      Rule r { kind := .arrayOfInnerClasses
               resolvedType := some (Name.simple element ++ r.entitySuffix)
               stubType := element
               stubSimpleName := Name.simple element
               isKnownEntity := r.targets.contains element }
  | complexArray (element : String) (h : '$' ∉ element.toList) :
      Rule r { kind := .arrayOfComplexTypes
               resolvedType := r.targets.get? element
               stubType := element
               stubSimpleName := Name.simple element
               isKnownEntity := r.targets.contains element }
  | single (raw type : String) (h : '$' ∉ type.toList) : Rule r (r.single raw type)
  | amended {d : FieldDescriptor} (h : Rule r d) (implementations : NameSet)
      (cast : Option IdentityCast) (accessor : Option String) :
      Rule r { d with implementations, cast, accessor }

/-! ## Rules -/

/-- The rules for a return type, one of which applies. -/
theorem descriptor_cases (r : Resolver) (returns : String) :
    let raw := Text.trim returns
    let type := Name.dotted raw
    r.descriptor returns = .plain .primitive type (Name.simple type) ∨
      r.descriptor returns = r.collection raw type ∨
      (∃ element, type = element ++ "[]" ∧ r.descriptor returns = r.array element) ∨
      TypeName.isCollection type = false ∧ TypeName.arrayElement? type = none ∧
        r.descriptor returns = r.single raw type := by
  intro raw type
  unfold descriptor
  dsimp only
  split
  · exact .inl rfl
  · split
    · exact .inr (.inl rfl)
    · next hcollection =>
      split
      · next element helement =>
        exact .inr (.inr (.inl ⟨element, TypeName.arrayElement?_eq_some_iff.1 helement, rfl⟩))
      · next hnone =>
        exact .inr (.inr (.inr ⟨Bool.eq_false_iff.2 hcollection, hnone, rfl⟩))

theorem kind_array (r : Resolver) (element : String) :
    r.array element = .plain .arrayOfPrimitives element element ∨
      (r.array element).kind = .arrayOfInnerClasses ∨
      (r.array element).kind = .arrayOfComplexTypes := by
  unfold array
  split
  · exact .inl rfl
  · split
    · exact .inr (.inl rfl)
    · exact .inr (.inr rfl)

theorem kind_single (r : Resolver) (raw type : String) :
    (r.single raw type).kind = .complexType ∨ (r.single raw type).kind = .innerClass := by
  unfold single
  dsimp only
  split
  · exact .inr rfl
  · exact .inl rfl

/-- Plain values are of primitive types, collections of collection types. -/
theorem kind_cases (r : Resolver) (returns : String) :
    let type := Name.dotted (Text.trim returns)
    TypeName.isPrimitive type = true ∧ (r.descriptor returns).kind = .primitive ∨
      TypeName.isPrimitive type = false ∧
        (TypeName.isCollection type = true ∧ (r.descriptor returns).kind = .collection ∨
          TypeName.isCollection type = false ∧ (r.descriptor returns).kind ≠ .primitive ∧
            (r.descriptor returns).kind ≠ .collection) := by
  intro type
  unfold descriptor
  dsimp only
  cases TypeName.isPrimitive type with
  | true => exact .inl ⟨rfl, rfl⟩
  | false =>
    refine .inr ⟨rfl, ?_⟩
    rw [if_neg Bool.false_ne_true]
    cases TypeName.isCollection type with
    | true => exact .inl ⟨rfl, rfl⟩
    | false =>
      refine .inr ⟨rfl, ?_⟩
      rw [if_neg Bool.false_ne_true]
      cases TypeName.arrayElement? type with
      | some element =>
        dsimp only
        rcases kind_array r element with h | h | h <;> simp [h, FieldDescriptor.plain]
      | none =>
        dsimp only
        rcases kind_single r (Text.trim returns) (Name.dotted (Text.trim returns)) with h | h <;>
          simp [h]

/-- A single class has the entity of its type. -/
theorem resolvedType_of_single (r : Resolver) (returns : String)
    (h : (r.descriptor returns).kind = .complexType ∨ (r.descriptor returns).kind = .innerClass) :
    (r.descriptor returns).resolvedType =
      r.targets.get? (Name.dotted (Text.trim returns)) := by
  rcases descriptor_cases r returns with heq | heq | ⟨element, -, heq⟩ | ⟨-, -, heq⟩
  · rw [heq] at h
    rcases h with h | h <;> cases h
  · rw [heq] at h
    rcases h with h | h <;> cases h
  · rw [heq] at h
    rcases kind_array r element with hk | hk | hk
    · rw [hk] at h
      rcases h with h | h <;> cases h
    all_goals
      rw [hk] at h
      rcases h with h | h <;> cases h
  · rw [heq]
    rfl

theorem rule_array {element : String} (h : '$' ∉ element.toList) : r.Rule (r.array element) := by
  unfold array
  split
  · exact .plain _ _ _ rfl h
  · split
    · next hin => exact .innerArray element h hin
    · exact .complexArray element h

theorem rule_descriptor (r : Resolver) (returns : String) : r.Rule (r.descriptor returns) := by
  have hdot := Name.notMem_dotted (Text.trim returns)
  rcases descriptor_cases r returns with h | h | ⟨element, htype, h⟩ | ⟨-, -, h⟩
  · exact h ▸ .plain _ _ _ rfl hdot
  · exact h ▸ .collection _ _ hdot
  · refine h ▸ rule_array fun hm => hdot ?_
    rw [htype, String.toList_append]
    exact List.mem_append_left _ hm
  · exact h ▸ .single _ _ hdot

namespace Rule

variable {d : FieldDescriptor}

/-- Stub types are spelled with dots only. -/
theorem stubType_dotted (h : r.Rule d) : '$' ∉ d.stubType.toList := by
  induction h with
  | collection raw type h => exact TypeName.notMem_argument h
  | plain _ _ _ _ h | innerArray _ h _ | complexArray _ h | single _ _ h => exact h
  | amended _ _ _ _ ih => exact ih

/-- A type with an entity has this entity, arrays of classes in scope apart. -/
theorem resolvedType_of_known (h : r.Rule d) (hknown : d.isKnownEntity = true)
    (hkind : d.kind ≠ .arrayOfInnerClasses) :
    ∃ target, r.targets.get? d.stubType = some target ∧ d.resolvedType = some target := by
  induction h with
  | plain => cases hknown
  | innerArray => exact absurd rfl hkind
  | collection raw type h =>
    obtain ⟨target, ht⟩ := Option.isSome_iff_exists.1 hknown
    refine ⟨target, ht, ?_⟩
    change some ((r.targets.get? (TypeName.argument type)).getD _) = _
    rw [ht]
    rfl
  | complexArray element h | single raw element h =>
    obtain ⟨target, ht⟩ := Option.isSome_iff_exists.1 hknown
    exact ⟨target, ht, ht⟩
  | amended _ _ _ _ ih => exact ih hknown hkind

/-- A nested type that is kept has its entity, or is its own generated type in a collection. -/
theorem resolvedType_of_nested (h : r.Rule d) (hdef : d.isDefined = true)
    (hkind : d.kind = .innerClass ∨ d.kind = .collection) :
    d.resolvedType = some ((r.targets.get? d.stubType).getD d.stubType) := by
  induction h with
  | plain kind type simpleName hplain h => rcases hkind with rfl | rfl <;> cases hplain
  | innerArray | complexArray => rcases hkind with hkind | hkind <;> cases hkind
  | collection => rfl
  | single raw type h =>
    obtain ⟨target, ht⟩ := Option.isSome_iff_exists.1 hdef
    have ht' : r.targets.get? type = some target := ht
    change r.targets.get? type = some ((r.targets.get? type).getD type)
    rw [ht']
    rfl
  | amended _ _ _ _ ih => exact ih hdef hkind

/-- The element of an array of classes in scope lies in the outermost class, and the type is named
after its last part alone. -/
theorem innerArray_spec (h : r.Rule d) (hkind : d.kind = .arrayOfInnerClasses) :
    d.resolvedType = some (Name.simple d.stubType ++ r.entitySuffix) ∧
      Name.isWithin d.stubType r.outermost.qualifiedName = true := by
  induction h with
  | plain kind type simpleName hplain h =>
    have hkind' : kind = .arrayOfInnerClasses := hkind
    rw [hkind'] at hplain
    cases hplain
  | collection | complexArray => cases hkind
  | single raw type h =>
    have hsingle : (if isInner raw (r.classes.find? type) then FieldKind.innerClass
        else .complexType) = .arrayOfInnerClasses := hkind
    split at hsingle <;> cases hsingle
  | innerArray element h hin => exact ⟨rfl, hin⟩
  | amended _ _ _ _ ih => exact ih hkind

/-- Single values and collections are asked for the identity of their class; arrays are not. -/
theorem hasIdentity_eq (h : r.Rule d) :
    d.hasIdentity = (!d.kind.isPlain && !d.kind.isArray &&
      r.classes.hasField d.stubType r.identityName) := by
  induction h with
  | plain kind type simpleName hkind _ =>
    rw [FieldDescriptor.plain, hkind]
    rfl
  | collection | innerArray | complexArray => rfl
  | single raw type _ =>
    rcases kind_single r raw type with hk | hk <;> rw [hk] <;> rfl
  | amended _ _ _ _ ih => exact ih

/-- A single nested type that is kept has an entity. -/
theorem known_of_innerClass (h : r.Rule d) (hdef : d.isDefined = true)
    (hkind : d.kind = .innerClass) : r.targets.contains d.stubType = true := by
  induction h with
  | plain kind type simpleName hplain h => cases (show kind = _ from hkind) ▸ hplain
  | collection | innerArray | complexArray => cases hkind
  | single => exact hdef
  | amended _ _ _ _ ih => exact ih hdef hkind

end Rule

end Resolver
end EntityGen
