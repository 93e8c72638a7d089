import EntityGen.Proofs.Field.Identity
import EntityGen.Proofs.Field.Warnings
import EntityGen.Proofs.Target

/-! # What a descriptor says of its type

Whatever the text of a return type is and whatever the table of entities holds, the parts of the
type's descriptor fit together (`Resolver.Describes`): its kind, its types on both sides, whether
the stub type is known to have an entity and whether the field has a counterpart at all. What is
known is what the table has an entry for.

* `Rule.isKnownEntity_eq`, `Rule.isDefined_eq_false_iff`: the two flags are a matter of the kind and
  of the table.
* `run_resolveRecorded`: resolving a type always ends with its descriptor, and records a warning or
  none.

**Descriptors are well formed** (`describes_resolved`), and it is their kind and their type that
decide on the warning. -/

namespace EntityGen.Resolver

variable {r : Resolver} {d : FieldDescriptor}

/-- The parts of the descriptor of a return type fit together. -/
structure Describes (r : Resolver) (returns : String) (d : FieldDescriptor) : Prop where
  primitive_iff : d.kind = .primitive ↔ Name.dotted (Text.trim returns) ∈ TypeName.primitives
  primitive : d.kind = .primitive →
    d.resolvedType = some (Name.dotted (Text.trim returns)) ∧
      d.stubType = Name.dotted (Text.trim returns)
  known_iff : d.isKnownEntity = true ↔
    d.kind ≠ .primitive ∧ d.kind ≠ .arrayOfPrimitives ∧
      ∃ target, r.targets.HasEntry d.stubType target
  undefined_iff : d.isDefined = false ↔
    (d.kind = .complexType ∨ d.kind = .innerClass ∨ d.kind = .arrayOfComplexTypes) ∧
      ∀ target, ¬ r.targets.HasEntry d.stubType target
  known : d.isKnownEntity = true → d.kind ≠ .arrayOfInnerClasses →
    ∃ target, r.targets.HasEntry d.stubType target ∧ d.resolvedType = some target

/-! ## Flags -/

namespace Rule

/-- All but plain values are looked up in the table. -/
theorem isKnownEntity_eq (h : r.Rule d) :
    d.isKnownEntity = (!d.kind.isPlain && r.targets.contains d.stubType) := by
  induction h with
  | plain kind type simpleName hkind _ =>
    rw [FieldDescriptor.plain, hkind]
    rfl
  | collection | innerArray | complexArray => rfl
  | single raw type _ => rcases kind_single r raw type with hk | hk <;> rw [hk] <;> rfl
  | amended _ _ _ _ ih => exact ih

/-- Single classes and arrays of classes elsewhere need an entry in the table; all others are
defined in any case. -/
theorem isDefined_eq_false_iff (h : r.Rule d) : d.isDefined = false ↔
    (d.kind = .complexType ∨ d.kind = .innerClass ∨ d.kind = .arrayOfComplexTypes) ∧
      r.targets.contains d.stubType = false := by
  induction h with
  | plain kind type simpleName hkind _ =>
    cases kind <;> cases hkind <;> simp [FieldDescriptor.plain, FieldDescriptor.isDefined]
  | collection | innerArray => simp [FieldDescriptor.isDefined, Resolver.collection]
  | complexArray => simp [FieldDescriptor.isDefined, TargetTable.contains]
  | single raw type _ =>
    have hdefined : (r.single raw type).isDefined = r.targets.contains type := rfl
    have hkind : (r.single raw type).kind = .complexType ∨ (r.single raw type).kind = .innerClass ∨
        (r.single raw type).kind = .arrayOfComplexTypes :=
      (kind_single r raw type).imp_right .inl
    rw [hdefined]
    exact (and_iff_right hkind).symm
  | amended _ _ _ _ ih => exact ih

end Rule

/-! ## Descriptors and warnings -/

theorem descriptor_of_isPrimitive {returns : String}
    (h : TypeName.isPrimitive (Name.dotted (Text.trim returns)) = true) :
    r.descriptor returns = .plain .primitive (Name.dotted (Text.trim returns))
      (Name.simple (Name.dotted (Text.trim returns))) := by
  rw [descriptor]
  exact if_pos h

theorem describes_descriptor (r : Resolver) (returns : String) :
    r.Describes returns (r.descriptor returns) where
  primitive_iff := by rw [kind_eq_primitive_iff, TypeName.isPrimitive, List.contains_iff_mem]
  primitive h := by
    rw [descriptor_of_isPrimitive ((kind_eq_primitive_iff r returns).1 h)]
    exact ⟨rfl, rfl⟩
  known_iff := by
    rw [(rule_descriptor r returns).isKnownEntity_eq, ← TargetTable.contains_iff]
    cases (r.descriptor returns).kind <;> simp [FieldKind.isPlain]
  undefined_iff := by
    rw [(rule_descriptor r returns).isDefined_eq_false_iff, ← Bool.not_eq_true,
      TargetTable.contains_iff, not_exists]
  known hknown hkind := by
    obtain ⟨target, hentry, hresolved⟩ :=
      (rule_descriptor r returns).resolvedType_of_known hknown hkind
    exact ⟨target, TargetTable.get?_eq_some_iff.1 hentry, hresolved⟩

/-- What there is to warn of about a descriptor, in a list. -/
theorem toList_warningFor (owner : StubClass) (method : MethodDef) (d : FieldDescriptor) :
    (warningFor owner method d).toList =
      if d.kind = .collection ∧
          TypeName.argument? (Name.dotted (Text.trim method.returns)) = none then
        [.untypedCollection owner.qualifiedName method.name]
      else if d.kind = .innerClass ∧ d.isDefined = false then
        [.unmappedType owner.qualifiedName method.name d.stubType .innerClass]
      else [] := by
  rw [warningFor]
  cases d.kind with
  | collection =>
    cases TypeName.argument? (Name.dotted (Text.trim method.returns)) <;> simp
  | innerClass => cases d.isDefined <;> simp
  | _ => simp

/-- Resolving a type ends with its descriptor, whatever is in the record. -/
theorem run_resolveRecorded (r : Resolver) (owner : StubClass) (method : MethodDef)
    (before : List Warning) :
    (r.resolveRecorded owner method).run.run before =
      (.ok (r.descriptor method.returns),
        before ++ (warningFor owner method (r.descriptor method.returns)).toList) := by
  rw [tells_resolve r owner method before]
  generalize r.descriptor method.returns = d
  rw [Diagnosed.bind_ok (x := Diagnosed.warn _) rfl, Diagnosed.pure_def, List.append_nil]
  rfl

/-- **Descriptors are well formed.** Resolving the type of an accessor ends with a descriptor whose
parts fit together. It adds one warning for a collection that does not name its elements, one for a
nested class without a counterpart, and none for any other type. -/
theorem describes_resolved (r : Resolver) (owner : StubClass) (method : MethodDef)
    (before : List Warning) :
    let d := r.descriptor method.returns
    r.Describes method.returns d ∧
      (r.resolveRecorded owner method).run.run before = (.ok d, before ++
        if d.kind = .collection ∧
            TypeName.argument? (Name.dotted (Text.trim method.returns)) = none then
          [.untypedCollection owner.qualifiedName method.name]
        else if d.kind = .innerClass ∧ d.isDefined = false then
          [.unmappedType owner.qualifiedName method.name d.stubType .innerClass]
        else []) := by
  intro d
  refine ⟨describes_descriptor r method.returns, ?_⟩
  rw [run_resolveRecorded, toList_warningFor]

end EntityGen.Resolver
