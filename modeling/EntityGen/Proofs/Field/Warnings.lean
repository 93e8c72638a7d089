import EntityGen.Field.Recorded
import EntityGen.Proofs.Field.Precedence

/-! # What is warned of on the way to a field map

Building a field map with a record of warnings gives the same map or error and adds the map's
warnings to the record (`Recorder.Tells`, kept by each part of the build; `tells_fieldMap`).

* `warningsOf_eq`: an accessor gives one warning or none; which one is a matter of its type alone.
* `warnings_addFields`: a run gives the warnings of the accessors it has come to, in their order.

**No accessor is dropped without a warning** (`warnings_recorded`). -/

namespace EntityGen

namespace Recorder

variable {α β : Type}

/-- The work ends as `y` does, whatever is in the record, and adds the warnings of `y` to it. -/
def Tells (x : Recorder α) (y : Diagnosed α) : Prop :=
  ∀ before, x.run.run before = (y.result, before ++ y.warnings)

theorem tells_pure (value : α) : Tells (pure value) (pure value) := fun before => by
  rw [Diagnosed.pure_def, List.append_nil]
  rfl

theorem tells_recordIf (reason : Bool) (warning : Warning) :
    Tells (recordIf reason warning) (Diagnosed.warn (if reason then [warning] else [])) :=
  fun _ => rfl

theorem tells_ofExcept (x : Except GenerationError α) :
    Tells (ExceptT.mk (pure x)) (Diagnosed.ofExcept x) := fun before => by
  rw [Diagnosed.ofExcept, List.append_nil]
  rfl

theorem Tells.bind {x : Recorder α} {y : Diagnosed α} {f : α → Recorder β} {g : α → Diagnosed β}
    (h : Tells x y) (hf : ∀ value, Tells (f value) (g value)) : Tells (x >>= f) (y >>= g) := by
  intro before
  rw [ExceptT.run_bind, StateT.run_bind, h before]
  cases hy : y.result with
  | error e =>
    rw [Diagnosed.bind_error hy]
    rfl
  | ok value =>
    rw [Diagnosed.bind_ok hy]
    refine (hf value _).trans ?_
    rw [List.append_assoc]

end Recorder

namespace Resolver

variable {r : Resolver} {c owner : StubClass} {method : MethodDef} {declared : List FieldDef}
  {fields : FieldMap}

open Recorder

/-! ## The record of a build -/

/-- Resolving records what there is to warn of about the descriptor. -/
theorem tells_resolve (r : Resolver) (owner : StubClass) (method : MethodDef) :
    Tells (r.resolveRecorded owner method) (do
      Diagnosed.warn (warningFor owner method (r.descriptor method.returns)).toList
      return r.descriptor method.returns) := by
  have hnone {d : FieldDescriptor} (h : warningFor owner method d = none) :
      Tells (pure d) (do
        Diagnosed.warn (warningFor owner method d).toList
        return d) := by
    rw [h]
    exact tells_pure d
  have hif {d : FieldDescriptor} {reason : Bool} {warning : Warning}
      (h : warningFor owner method d = if reason then some warning else none) :
      Tells (do recordIf reason warning; return d) (do
        Diagnosed.warn (warningFor owner method d).toList
        return d) := by
    have hlist : (warningFor owner method d).toList = if reason then [warning] else [] := by
      rw [h]
      cases reason <;> rfl
    rw [hlist]
    exact (tells_recordIf reason warning).bind fun _ => tells_pure d
  unfold resolveRecorded descriptor
  dsimp only
  split
  · exact hnone rfl
  · split
    · refine hif ?_
      simp only [warningFor, collection]
    · cases TypeName.arrayElement? (Name.dotted (Text.trim method.returns)) with
      | some element =>
        refine hnone ?_
        rcases kind_array r element with h | h | h
        · rw [h]
          rfl
        · simp only [warningFor, h]
        · simp only [warningFor, h]
      | none =>
        refine hif ?_
        unfold warningFor single FieldDescriptor.isDefined
        dsimp only
        cases isInner (Text.trim method.returns)
            (r.classes.find? (Name.dotted (Text.trim method.returns))) with
        | false => rfl
        | true => cases r.targets.get? (Name.dotted (Text.trim method.returns)) <;> rfl

/-- What is done with a descriptor records the warning about a dropped field. -/
theorem tells_use (r : Resolver) (c : StubClass) (declared : List FieldDef) (fields : FieldMap)
    (method : MethodDef) (d : FieldDescriptor) :
    Tells (r.useRecorded c declared fields method d) (do
      Diagnosed.warn (dropWarning c method d).toList
      if isKept d && !fields.contains (fieldName declared method.name) then
        let cast ← Diagnosed.ofExcept (r.castOf c (fieldName declared method.name) d)
        return fields.insert (fieldName declared method.name)
          { withImplementations declared method.name d with cast, accessor := some method.name }
      else return fields) := by
  unfold useRecorded dropWarning isKept
  dsimp only
  cases isReserved d with
  | true => exact tells_pure fields
  | false =>
    cases d.isDefined with
    | false =>
      have hwarning : (if (false || false || decide (d.kind = .innerClass)) = true then none
          else some (Warning.unmappedType c.qualifiedName method.name d.stubType d.kind)).toList =
          if decide (d.kind ≠ .innerClass) then
            [.unmappedType c.qualifiedName method.name d.stubType d.kind] else [] := by
        by_cases hkind : d.kind = .innerClass <;> simp [hkind]
      rw [hwarning]
      exact (tells_recordIf _ _).bind fun _ => tells_pure fields
    | true =>
      cases fields.contains (fieldName declared method.name) with
      | true => exact tells_pure fields
      | false => exact (tells_ofExcept _).bind fun _ => tells_pure _

theorem warn_append (first second : List Warning) :
    Diagnosed.warn (first ++ second) = (do Diagnosed.warn first; Diagnosed.warn second) := rfl

theorem tells_addField (r : Resolver) (c : StubClass) (declared : List FieldDef)
    (fields : FieldMap) (owner : StubClass) (method : MethodDef) :
    Tells (r.addFieldRecorded c declared fields owner method)
      (r.addField c declared fields owner method) := by
  have htells := (tells_resolve r owner method).bind (tells_use r c declared fields method)
  unfold addField
  dsimp only [resolve]
  rw [warn_append, bind_assoc]
  rw [bind_assoc] at htells
  simp only [pure_bind] at htells
  exact htells

theorem tells_addFields (fields : FieldMap) (accessors : List (StubClass × MethodDef)) :
    Tells (r.addFieldsRecorded c declared fields accessors)
      (r.addFields c declared fields accessors) := by
  induction accessors generalizing fields with
  | nil => exact tells_pure fields
  | cons accessor accessors ih => exact (tells_addField r c declared fields _ _).bind ih

/-- A build with a record ends as the field map does, and adds the map's warnings to the record. -/
theorem tells_fieldMap (r : Resolver) (c : StubClass) :
    Tells (r.fieldMapRecorded c) (r.fieldMap c) :=
  tells_addFields ∅ _

/-! ## The warnings of one accessor -/

/-- Whether a return type is a collection that does not say what its elements are. -/
def isUntyped (returns : String) : Bool :=
  TypeName.isCollection (Name.dotted (Text.trim returns)) &&
    (TypeName.argument? (Name.dotted (Text.trim returns))).isNone

theorem not_isCollection_of_isPrimitive {type : String} (h : TypeName.isPrimitive type = true) :
    TypeName.isCollection type = false := by
  have hall : ∀ type ∈ TypeName.primitives, TypeName.isCollection type = false := by
    decide +kernel
  exact hall type (List.contains_iff_mem.1 h)

theorem descriptor_of_isCollection {returns : String}
    (h : TypeName.isCollection (Name.dotted (Text.trim returns)) = true) :
    r.descriptor returns =
      r.collection (Text.trim returns) (Name.dotted (Text.trim returns)) := by
  unfold descriptor
  dsimp only
  split
  · next hprimitive =>
    rw [not_isCollection_of_isPrimitive hprimitive] at h
    cases h
  · rfl

theorem kind_ne_collection {returns : String}
    (h : TypeName.isCollection (Name.dotted (Text.trim returns)) = false) :
    (r.descriptor returns).kind ≠ .collection := by
  rcases kind_cases r returns with ⟨-, hkind⟩ | ⟨-, ⟨hcollection, -⟩ | ⟨-, -, hkind⟩⟩
  · simp [hkind]
  · rw [h] at hcollection
    cases hcollection
  · exact hkind

/-- An accessor gives one warning or none. -/
theorem warningsOf_eq (r : Resolver) (c owner : StubClass) (method : MethodDef) :
    r.warningsOf c owner method =
      if isUntyped method.returns then [.untypedCollection owner.qualifiedName method.name]
      else if (r.descriptor method.returns).isDefined then []
      else if (r.descriptor method.returns).kind = .innerClass then
        [.unmappedType owner.qualifiedName method.name (r.descriptor method.returns).stubType
          .innerClass]
      else if isReserved (r.descriptor method.returns) then []
      else [.unmappedType c.qualifiedName method.name (r.descriptor method.returns).stubType
        (r.descriptor method.returns).kind] := by
  unfold warningsOf isUntyped
  cases hcollection : TypeName.isCollection (Name.dotted (Text.trim method.returns)) with
  | true =>
    have hdefined : (r.descriptor method.returns).isDefined = true := by
      rw [descriptor_of_isCollection hcollection]
      rfl
    have hkind : (r.descriptor method.returns).kind = .collection := by
      rw [descriptor_of_isCollection hcollection]
      rfl
    rw [dropWarning, warningFor, hkind, hdefined]
    cases TypeName.argument? (Name.dotted (Text.trim method.returns)) <;> simp
  | false =>
    have hkind := kind_ne_collection (r := r) hcollection
    rw [dropWarning, warningFor]
    generalize r.descriptor method.returns = d at hkind
    -- only nested classes are warned of before their field is dropped
    cases hdefined : d.isDefined <;> cases hreserved : isReserved d <;> cases h : d.kind <;>
      simp_all

/-- Collections are always defined: their elements stand for themselves if need be. -/
theorem isDefined_of_isUntyped {returns : String} (h : isUntyped returns = true) :
    (r.descriptor returns).isDefined = true := by
  rw [isUntyped, Bool.and_eq_true] at h
  rw [descriptor_of_isCollection h.1]
  rfl

theorem warningsOf_of_isUntyped (h : isUntyped method.returns = true) :
    r.warningsOf c owner method = [.untypedCollection owner.qualifiedName method.name] := by
  rw [warningsOf_eq, if_pos h]

theorem isUnmappedType_of_isDefined (h : (r.descriptor method.returns).isDefined = true)
    {w : Warning} (hw : w ∈ r.warningsOf c owner method) : w.isUnmappedType = false := by
  rw [warningsOf_eq, h, if_pos rfl] at hw
  split at hw
  · rw [List.mem_singleton.1 hw]
    rfl
  · cases hw

theorem warningsOf_of_undefined (h : (r.descriptor method.returns).isDefined = false)
    (hreserved : isReserved (r.descriptor method.returns) = false) :
    ∃ o, r.warningsOf c owner method =
      [.unmappedType o method.name (r.descriptor method.returns).stubType
        (r.descriptor method.returns).kind] := by
  have htyped : isUntyped method.returns = false :=
    Bool.eq_false_iff.2 fun huntyped => by
      rw [isDefined_of_isUntyped huntyped] at h
      cases h
  rw [warningsOf_eq, htyped, h, hreserved]
  by_cases hkind : (r.descriptor method.returns).kind = .innerClass
  · exact ⟨owner.qualifiedName, by simp [hkind]⟩
  · exact ⟨c.qualifiedName, by simp [hkind]⟩

/-! ## The warnings of a build -/

/-- A run gives the warnings of the accessors that it comes to, in order: of all, or of those up to
the one whose field lacks its cast. -/
theorem warnings_addFields (fields : FieldMap) (accessors : List (StubClass × MethodDef)) :
    ∃ come rest, accessors = come ++ rest ∧
      (r.addFields c (r.classes.declaredFields c) fields accessors).warnings =
        come.flatMap (fun a => r.warningsOf c a.1 a.2) ∧
      (∀ fields', (r.addFields c (r.classes.declaredFields c) fields accessors).result =
        .ok fields' → rest = []) ∧
      ∀ e, (r.addFields c (r.classes.declaredFields c) fields accessors).result = .error e →
        ∃ earlier last, come = earlier ++ [last] ∧ r.lacksCast c last.2 = true ∧
          e = r.castError c last.2 := by
  induction accessors generalizing fields with
  | nil => exact ⟨[], [], rfl, rfl, fun _ _ => rfl, fun _ he => by cases he⟩
  | cons accessor accessors ih =>
    obtain ⟨owner, method⟩ := accessor
    have hwarnings : (r.addField c (r.classes.declaredFields c) fields owner method).warnings =
        r.warningsOf c owner method := by
      rw [addField_eq]
    rw [addFields]
    cases hstep : (r.addField c (r.classes.declaredFields c) fields owner method).result with
    | ok mid =>
      rw [Diagnosed.bind_ok hstep, hwarnings]
      obtain ⟨come, rest, rfl, hcome, hok, herror⟩ := ih mid
      refine ⟨(owner, method) :: come, rest, rfl, ?_, hok, fun e he => ?_⟩
      · rw [List.flatMap_cons, ← hcome]
      · obtain ⟨earlier, last, rfl, hlast⟩ := herror e he
        exact ⟨(owner, method) :: earlier, last, rfl, hlast⟩
    | error e =>
      rw [Diagnosed.bind_error hstep, hwarnings]
      refine ⟨[(owner, method)], accessors, rfl, (List.append_nil _).symm, fun _ he => ?_,
        fun e' he => ?_⟩
      · cases he
      · cases he
        rw [result_addField] at hstep
        split at hstep
        · split at hstep
          · next hlacks =>
            cases hstep
            exact ⟨[], (owner, method), rfl, hlacks, rfl⟩
          · cases hstep
        · cases hstep

/-- **No accessor is dropped without a warning.** A build adds to the record what there is to warn
of about the accessors that it comes to, in their order, and takes nothing out of it. These are all
accessors, or those up to the identity that ends the build. An accessor whose field has no
counterpart, reserved types apart, adds one warning about this, an accessor whose field has one
adds none, and a collection that does not say what its elements are adds a warning about that. -/
theorem warnings_recorded (r : Resolver) (c : StubClass) (before : List Warning) :
    (∃ come rest, r.classes.visibleAccessors c = come ++ rest ∧
      (r.fieldMapRecorded c).run.run before =
        ((r.fieldMap c).result, before ++ come.flatMap fun a => r.warningsOf c a.1 a.2) ∧
      (∀ fields, (r.fieldMap c).result = .ok fields → rest = []) ∧
      ∀ e, (r.fieldMap c).result = .error e →
        ∃ earlier last, come = earlier ++ [last] ∧ r.lacksCast c last.2 = true ∧
          e = r.castError c last.2) ∧
    ∀ declared fields owner method,
      ((r.addFieldRecorded c declared fields owner method).run.run before).2 =
        before ++ r.warningsOf c owner method ∧
      ((r.descriptor method.returns).isDefined = false →
        isReserved (r.descriptor method.returns) = false →
        ∃ o, r.warningsOf c owner method =
          [.unmappedType o method.name (r.descriptor method.returns).stubType
            (r.descriptor method.returns).kind]) ∧
      ((r.descriptor method.returns).isDefined = true →
        ∀ w ∈ r.warningsOf c owner method, w.isUnmappedType = false) ∧
      (isUntyped method.returns = true →
        r.warningsOf c owner method = [.untypedCollection owner.qualifiedName method.name]) := by
  constructor
  · obtain ⟨come, rest, haccessors, hwarnings, hok, herror⟩ :=
      warnings_addFields (r := r) (c := c) ∅ (r.classes.visibleAccessors c)
    refine ⟨come, rest, haccessors, ?_, hok, herror⟩
    rw [tells_fieldMap r c before]
    exact congrArg (fun added => ((r.fieldMap c).result, before ++ added)) hwarnings
  · intro declared fields owner method
    refine ⟨?_, warningsOf_of_undefined, fun h w => isUnmappedType_of_isDefined h,
      warningsOf_of_isUntyped⟩
    rw [tells_addField r c declared fields owner method before, addField_eq]

/-- Parcels have a sender whose class is missing and parts of no type; as items they have a lid,
which is nested in a missing class. -/
def depot : ClassGraph :=
  .build ⟨ClassDef.layoutAll none 0
    [⟨"a", "Parcel", false, some "a.Item", [],
        [⟨"getSender", [], "x.Person"⟩, ⟨"getParts", [], "java.util.List"⟩], []⟩,
      ⟨"a", "Item", false, none, [], [⟨"getLid", [], "x.Box$Lid"⟩], []⟩]⟩ {}

/-- A parcel has a field map, and something is wrong with each of its accessors. -/
theorem accessors_depot : ∃ c ∈ depot.classes.classes, c.qualifiedName = "a.Parcel" ∧
    (depot.fieldMap c).result.isOk = true ∧
    (∃ sender ∈ c.accessors, sender.name = "getSender" ∧
      ((depot.resolverOf c).descriptor sender.returns).isDefined = false ∧
      isReserved ((depot.resolverOf c).descriptor sender.returns) = false) ∧
    (∃ parts ∈ c.accessors, parts.name = "getParts" ∧ isUntyped parts.returns = true) ∧
    ((depot.classes.visibleAccessors c).flatMap fun a =>
      (depot.resolverOf c).warningsOf c a.1 a.2) =
      [.unmappedType "a.Parcel" "getSender" "x.Person" .complexType,
        .untypedCollection "a.Parcel" "getParts",
        .unmappedType "a.Item" "getLid" "x.Box.Lid" .innerClass] := by
  decide +kernel

/-- The record of a depot gets the three warnings about a parcel, behind what it has already. -/
theorem warnings_recorded_depot : ∃ c ∈ depot.classes.classes, c.qualifiedName = "a.Parcel" ∧
    (∃ sender ∈ c.accessors, ∃ o, (depot.resolverOf c).warningsOf c c sender =
      [.unmappedType o "getSender" ((depot.resolverOf c).descriptor sender.returns).stubType
        ((depot.resolverOf c).descriptor sender.returns).kind]) ∧
    (∃ parts ∈ c.accessors, (depot.resolverOf c).warningsOf c c parts =
      [.untypedCollection "a.Parcel" "getParts"]) ∧
    ((depot.resolverOf c).fieldMapRecorded c).run.run [.untypedCollection "a.Box" "getAll"] =
      ((depot.fieldMap c).result,
        [.untypedCollection "a.Box" "getAll",
          .unmappedType "a.Parcel" "getSender" "x.Person" .complexType,
          .untypedCollection "a.Parcel" "getParts",
          .unmappedType "a.Item" "getLid" "x.Box.Lid" .innerClass]) := by
  obtain ⟨c, hc, hname, hok, ⟨sender, hsender, hsenderName, hundefined, hreserved⟩,
    ⟨parts, hparts, hpartsName, huntyped⟩, hwarnings⟩ := accessors_depot
  obtain ⟨hbuild, hstep⟩ :=
    warnings_recorded (depot.resolverOf c) c [.untypedCollection "a.Box" "getAll"]
  obtain ⟨-, hsenderWarned, -, -⟩ := hstep [] ∅ c sender
  obtain ⟨-, -, -, hpartsWarned⟩ := hstep [] ∅ c parts
  refine ⟨c, hc, hname, ⟨sender, hsender, ?_⟩, ⟨parts, hparts, ?_⟩, ?_⟩
  · rw [← hsenderName]
    exact hsenderWarned hundefined hreserved
  · rw [hpartsWarned huntyped, hname, hpartsName]
  · obtain ⟨come, rest, haccessors, hrun, hall, -⟩ := hbuild
    obtain ⟨fields, hfields⟩ := Diagnosed.exists_of_isOk hok
    obtain rfl := hall fields hfields
    rw [List.append_nil] at haccessors
    rw [hrun, ← haccessors]
    have hclasses : (depot.resolverOf c).classes = depot.classes := rfl
    rw [hclasses, hwarnings]
    rfl

end Resolver

end EntityGen
