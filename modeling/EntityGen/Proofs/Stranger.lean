import EntityGen.Proofs.Field.Map
import EntityGen.Stranger

/-! # Corrections

What the corrections of a class are: one for each stranger among its fields
(`mem_corrections_iff`, `corrections_fields_nodup`), each of a type outside the current class whose
new generated type depends on the stub type alone (`Moves`, `moves_of_mem_corrections`). -/

namespace EntityGen.Stranger

variable {classes : ClassSet} {targets : TargetTable} {current : StubClass} {fields : FieldMap}
  {d : FieldDescriptor} {k : OwnershipCorrection}

theorem mem_find_iff {name field : String} :
    (field, d) ∈ find name fields ↔ fields.get? field = some d ∧ isStranger name d = true := by
  rw [find, List.mem_filter, NameMap.get?_eq_some_iff]

/-- A class has a correction for each stranger among its fields. -/
theorem mem_corrections_iff :
    k ∈ corrections classes targets current fields ↔
      ∃ field d, fields.get? field = some d ∧ isStranger current.qualifiedName d = true ∧
        k = { field
              previousOwner := ownerOf classes d.stubType
              newOwner := current.qualifiedName
              stubType := d.stubType
              descriptor := moved targets (ownerOf classes d.stubType) current d } := by
  rw [corrections, List.mem_map]
  constructor
  · rintro ⟨⟨field, d⟩, h, rfl⟩
    obtain ⟨hd, hs⟩ := mem_find_iff.1 h
    exact ⟨field, d, hd, hs, rfl⟩
  · rintro ⟨field, d, hd, hs, rfl⟩
    exact ⟨(field, d), mem_find_iff.2 ⟨hd, hs⟩, rfl⟩

/-- No two corrections of a class are about one field. -/
theorem corrections_fields_nodup :
    ((corrections classes targets current fields).map (·.field)).Nodup := by
  rw [corrections, List.map_map]
  exact fields.keys_nodup.sublist (List.filter_sublist.map _)

theorem kind_of_isStranger {name : String} (h : isStranger name d = true) :
    d.kind = .innerClass ∨ d.kind = .collection := by
  rw [isStranger, Bool.and_eq_true, Bool.and_eq_true] at h
  have href := h.1.1
  unfold refersToNested at href
  split at href
  · exact .inl ‹_›
  · exact .inr ‹_›
  · cases href

theorem kind_of_mem_corrections (h : k ∈ corrections classes targets current fields) :
    k.descriptor.kind = .innerClass ∨ k.descriptor.kind = .collection := by
  obtain ⟨field, d, -, hs, rfl⟩ := mem_corrections_iff.1 h
  have hkind : (moved targets (ownerOf classes d.stubType) current d).kind = d.kind := rfl
  rw [hkind]
  exact kind_of_isStranger hs

theorem not_isWithin_of_isStranger {name : String} (h : isStranger name d = true) :
    Name.isWithin d.stubType name = false := by
  rw [isStranger, Bool.and_eq_true] at h
  simpa using h.2

/-! ## Moved types -/

/-- The generated type of the strangers of one type: its entity or else the type itself, moved to
the current class's entity if that can be done. -/
def movedType (classes : ClassSet) (targets : TargetTable) (current : StubClass)
    (stubType : String) : String :=
  let target := (targets.get? stubType).getD stubType
  let rerooted := do
    reroot? target (← targets.get? (ownerOf classes stubType))
      (← targets.get? current.qualifiedName)
  rerooted.getD target

/-- What a correction says of its type: it lies outside the current class, all corrections of it
agree on the new generated type, and if the field's type is said to have an entity it has one. -/
structure Moves (classes : ClassSet) (targets : TargetTable) (current : StubClass)
    (k : OwnershipCorrection) : Prop where
  dotted : '$' ∉ k.stubType.toList
  outside : Name.isWithin k.stubType current.qualifiedName = false
  resolvedType :
    k.descriptor.resolvedType = some (movedType classes targets current k.stubType)
  known : k.descriptor.isKnownEntity = true → targets.contains k.stubType = true

theorem moves_of_mem_corrections {r : Resolver}
    (hfields : ∀ name d, fields.get? name = some d → r.Rule d ∧ Resolver.isKept d = true)
    (hk : k ∈ corrections classes r.targets current fields) :
    Moves classes r.targets current k := by
  obtain ⟨field, d, hd, hs, rfl⟩ := mem_corrections_iff.1 hk
  obtain ⟨hrule, hkept⟩ := hfields field d hd
  have hkind := kind_of_isStranger hs
  have hresolved := hrule.resolvedType_of_nested (Resolver.isDefined_of_isKept hkept) hkind
  refine ⟨hrule.stubType_dotted, not_isWithin_of_isStranger hs, ?_, fun hknown => ?_⟩
  · simp only [moved, movedType, hresolved]
    cases r.targets.get? (ownerOf classes d.stubType) with
    | none => rfl
    | some source =>
      cases r.targets.get? current.qualifiedName with
      | none => rfl
      | some target =>
        simp only [Option.bind_eq_bind, Option.bind_some]
        cases reroot? ((r.targets.get? d.stubType).getD d.stubType) source target <;> rfl
  · have hne : d.kind ≠ .arrayOfInnerClasses := by rcases hkind with h | h <;> rw [h] <;> decide
    obtain ⟨target, ht, -⟩ := hrule.resolvedType_of_known hknown hne
    simp [TargetTable.contains, ht]

end EntityGen.Stranger
