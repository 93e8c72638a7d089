import EntityGen.Proofs.Field.Resolver
import EntityGen.Proofs.Tree

/-! # Fields of a class

Where the entries of a field map come from: `addField_eq` says what one accessor does and
`addField_cases` what it adds to the map, `source_of_fieldMap` which accessor a field in the
finished map was made from, and `rule_of_fieldMap` what every field is. The only error is an
identity without a cast (`fieldMap_error`). -/

namespace EntityGen.Resolver

variable {r : Resolver} {c owner : StubClass} {method : MethodDef} {declared : List FieldDef}
  {fields fields' : FieldMap} {d : FieldDescriptor} {name : String}

theorem rule_withImplementations (h : r.Rule d) (declared : List FieldDef) (accessor : String) :
    r.Rule (withImplementations declared accessor d) := by
  unfold withImplementations
  split
  · exact h
  · split
    · exact h
    · exact h.amended _ d.cast d.accessor

theorem isKept_withImplementations (declared : List FieldDef) (accessor : String)
    (d : FieldDescriptor) : isKept (withImplementations declared accessor d) = isKept d := by
  unfold withImplementations
  split
  · rfl
  · split <;> rfl

/-- `d` is the field `name` as an accessor gives it: the accessor's return type is resolved, the
declared field amends the result, and the identity is cast. -/
structure MadeBy (r : Resolver) (c : StubClass) (method : MethodDef) (name : String)
    (d : FieldDescriptor) : Prop where
  name_eq : name = fieldName (r.classes.declaredFields c) method.name
  kept : isKept (r.descriptor method.returns) = true
  eq : ∃ cast, r.castOf c name (r.descriptor method.returns) = .ok cast ∧
    d = { withImplementations (r.classes.declaredFields c) method.name
            (r.descriptor method.returns) with
          cast, accessor := some method.name }

theorem types_withImplementations (declared : List FieldDef) (accessor : String)
    (d : FieldDescriptor) :
    (withImplementations declared accessor d).kind = d.kind ∧
      (withImplementations declared accessor d).resolvedType = d.resolvedType ∧
      (withImplementations declared accessor d).stubType = d.stubType := by
  unfold withImplementations
  split
  · exact ⟨rfl, rfl, rfl⟩
  · split <;> exact ⟨rfl, rfl, rfl⟩

/-- A field has the kind and the types of its accessor's return type. -/
theorem MadeBy.types {c : StubClass} {method : MethodDef} {name : String} {d : FieldDescriptor}
    (h : r.MadeBy c method name d) :
    d.kind = (r.descriptor method.returns).kind ∧
      d.resolvedType = (r.descriptor method.returns).resolvedType ∧
      d.stubType = (r.descriptor method.returns).stubType := by
  obtain ⟨cast, -, heq⟩ := h.eq
  have htypes := types_withImplementations (r.classes.declaredFields c) method.name
    (r.descriptor method.returns)
  generalize r.descriptor method.returns = d₀ at heq htypes
  generalize withImplementations _ _ _ = d₁ at heq htypes
  rw [heq]
  exact htypes

/-- What there is to warn of about an accessor of `c` that `owner` declares. -/
def warningsOf (r : Resolver) (c owner : StubClass) (method : MethodDef) : List Warning :=
  (warningFor owner method (r.descriptor method.returns)).toList
    ++ (dropWarning c method (r.descriptor method.returns)).toList

/-- One accessor gives its warnings in any case; it adds its field if that is kept and new. -/
theorem addField_eq (r : Resolver) (c : StubClass) (declared : List FieldDef) (fields : FieldMap)
    (owner : StubClass) (method : MethodDef) :
    r.addField c declared fields owner method =
      ⟨r.warningsOf c owner method, r.warningsOf c owner method,
        if isKept (r.descriptor method.returns) && !fields.contains (fieldName declared method.name)
        then (r.castOf c (fieldName declared method.name) (r.descriptor method.returns)).map
          fun cast => fields.insert (fieldName declared method.name)
            { withImplementations declared method.name (r.descriptor method.returns) with
              cast, accessor := some method.name }
        else .ok fields⟩ := by
  unfold addField
  dsimp only [resolve]
  rw [Diagnosed.bind_ok (show (Diagnosed.warn _).result = .ok () from rfl)]
  split
  · cases hcast : r.castOf c (fieldName declared method.name) (r.descriptor method.returns) with
    | error e =>
      rw [Diagnosed.bind_error (e := e) rfl]
      simp [Diagnosed.warn, warningsOf, Except.map, Diagnosed.ofExcept]
    | ok cast =>
      rw [Diagnosed.bind_ok (show (Diagnosed.ofExcept (.ok cast)).result = .ok cast from rfl)]
      simp [Diagnosed.warn, warningsOf, Except.map, Diagnosed.ofExcept, Diagnosed.pure_def]
  · simp [Diagnosed.warn, warningsOf, Diagnosed.pure_def]

/-- An accessor adds its field, or leaves the map as it is. -/
theorem addField_cases
    (h : (r.addField c (r.classes.declaredFields c) fields owner method).result = .ok fields') :
    fields' = fields ∨
      ∃ name d, r.MadeBy c method name d ∧ fields' = fields.insert name d := by
  rw [addField_eq] at h
  dsimp only at h
  split at h
  · next hkept =>
    rw [Bool.and_eq_true] at hkept
    cases hcast : r.castOf c (fieldName (r.classes.declaredFields c) method.name)
        (r.descriptor method.returns) with
    | error e =>
      rw [hcast] at h
      cases h
    | ok cast =>
      rw [hcast] at h
      cases h
      exact .inr ⟨_, _, ⟨rfl, hkept.1, cast, hcast, rfl⟩, rfl⟩
  · cases h
    exact .inl rfl

theorem source_of_addFields {accessors : List (StubClass × MethodDef)}
    (h : (r.addFields c (r.classes.declaredFields c) fields accessors).result = .ok fields')
    (hd : fields'.get? name = some d) :
    fields.get? name = some d ∨
      ∃ owner method, (owner, method) ∈ accessors ∧ r.MadeBy c method name d := by
  induction accessors generalizing fields with
  | nil =>
    cases h
    exact .inl hd
  | cons accessor accessors ih =>
    obtain ⟨mid, hmid, h⟩ := Diagnosed.result_bind_eq_ok.1 h
    rcases ih h with hd | ⟨owner, method, hmem, hmade⟩
    · rcases addField_cases hmid with rfl | ⟨other, d', hmade, rfl⟩
      · exact .inl hd
      · rw [NameMap.get?_insert] at hd
        split at hd
        · next heq =>
          cases hd
          exact .inr ⟨accessor.1, accessor.2, List.mem_cons_self, heq ▸ hmade⟩
        · exact .inl hd
    · exact .inr ⟨owner, method, List.mem_cons_of_mem _ hmem, hmade⟩

/-- Every field of a class was made by an accessor that the class has or inherits. -/
theorem source_of_fieldMap (h : (r.fieldMap c).result = .ok fields)
    (hd : fields.get? name = some d) :
    ∃ owner method, (owner, method) ∈ r.classes.visibleAccessors c ∧ r.MadeBy c method name d :=
  (source_of_addFields h hd).resolve_left nofun

/-- Every field of a class was made by a rule and is kept. -/
theorem rule_of_fieldMap (h : (r.fieldMap c).result = .ok fields)
    (hd : fields.get? name = some d) : r.Rule d ∧ isKept d = true := by
  obtain ⟨-, method, -, -, hkept, cast, -, rfl⟩ := source_of_fieldMap h hd
  have hrule := rule_withImplementations (rule_descriptor r method.returns)
    (r.classes.declaredFields c) method.name
  rw [← isKept_withImplementations (r.classes.declaredFields c) method.name] at hkept
  generalize withImplementations _ _ _ = d₀ at hrule hkept
  exact ⟨hrule.amended d₀.implementations cast (some method.name), hkept⟩

theorem isDefined_of_isKept (h : isKept d = true) : d.isDefined = true := by
  rw [isKept, Bool.and_eq_true] at h
  exact h.2

/-! ## Errors -/

theorem castOf_error {e : GenerationError} (h : r.castOf c name d = .error e) :
    e = .unmappedCast c.qualifiedName name d.stubType r.identityType := by
  unfold castOf at h
  split at h
  · split at h
    · cases h
    · cases h
      rfl
  · cases h

theorem addField_error {e : GenerationError}
    (h : (r.addField c declared fields owner method).result = .error e) :
    ∃ field source, e = .unmappedCast c.qualifiedName field source r.identityType := by
  rw [addField_eq] at h
  dsimp only at h
  split at h
  · cases hcast : r.castOf c (fieldName declared method.name) (r.descriptor method.returns) with
    | error e' =>
      rw [hcast] at h
      cases h
      exact ⟨_, _, castOf_error hcast⟩
    | ok cast =>
      rw [hcast] at h
      cases h
  · cases h

theorem addFields_error {accessors : List (StubClass × MethodDef)} {e : GenerationError}
    (h : (r.addFields c declared fields accessors).result = .error e) :
    ∃ field source, e = .unmappedCast c.qualifiedName field source r.identityType := by
  induction accessors generalizing fields with
  | nil => cases h
  | cons accessor accessors ih =>
    rcases Diagnosed.result_bind_eq_error.1 h with h | ⟨mid, -, h⟩
    · exact addField_error h
    · exact ih h

/-- The fields of a class fail only for an identity that has no cast. -/
theorem fieldMap_error {e : GenerationError} (h : (r.fieldMap c).result = .error e) :
    ∃ field source, e = .unmappedCast c.qualifiedName field source r.identityType :=
  addFields_error h

end EntityGen.Resolver
