import EntityGen.Field.Resolver

/-! # The field map of a class

One descriptor for each field of a class, by field name. The class's own accessors come before those
of its superclass, and of two accessors for one field the first counts. An accessor's field is
dropped if its type is reserved or has no counterpart; the latter is warned of. -/

namespace EntityGen.Resolver

/-! ## One accessor -/

/-- Whether the type of a field is reserved, on either side. -/
def isReserved (d : FieldDescriptor) : Bool :=
  TypeName.isReserved d.stubType || d.resolvedType.any TypeName.isReserved

/-- Whether a field of this descriptor is generated. -/
def isKept (d : FieldDescriptor) : Bool := !isReserved d && d.isDefined

/-- The declared field that an accessor reads, up to the case of its letters. -/
def declaredField? (declared : List FieldDef) (accessor : String) : Option FieldDef :=
  declared.find? fun f => Text.sameIgnoringCase f.name (Name.fieldOfAccessor accessor)

/-- The name of an accessor's field: what an annotation on the declared field says, or the
accessor's own name. -/
def fieldName (declared : List FieldDef) (accessor : String) : String :=
  match (declaredField? declared accessor).bind (·.nameOverride) with
  | some name => Name.recapitalize name
  | none => Name.fieldOfAccessor accessor

/-- The descriptor with the implementations that the declared field allows; plain values have
none. -/
def withImplementations (declared : List FieldDef) (accessor : String) (d : FieldDescriptor) :
    FieldDescriptor :=
  if d.kind.isPlain then d
  else match declaredField? declared accessor with
    | none => d
    | some f => { d with implementations := NameSet.ofList f.concreteImplementations }

/-- The warning about a dropped field; nested classes were warned of when they were resolved. -/
def dropWarning (c : StubClass) (method : MethodDef) (d : FieldDescriptor) : Option Warning :=
  if isReserved d || d.isDefined || d.kind = .innerClass then none
  else some (.unmappedType c.qualifiedName method.name d.stubType d.kind)

/-- The cast that a field needs: none unless it is the identity and of another type, and then there
has to be one. -/
def castOf (r : Resolver) (c : StubClass) (name : String) (d : FieldDescriptor) :
    Except GenerationError (Option IdentityCast) :=
  if Text.sameIgnoringCase name r.identityName
      && !IdentityCast.sameType d.stubType r.identityType then
    match IdentityCast.between? d.stubType r.identityType with
    | some cast => .ok (some cast)
    | none => .error (.unmappedCast c.qualifiedName name d.stubType r.identityType)
  else .ok none

/-! ## All accessors -/

/-- The map with the field of one more accessor, `method` of `owner`, unless its field is dropped or
there already. -/
def addField (r : Resolver) (c : StubClass) (declared : List FieldDef) (fields : FieldMap)
    (owner : StubClass) (method : MethodDef) : Diagnosed FieldMap := do
  let (d, warning) := r.resolve owner method
  Diagnosed.warn (warning.toList ++ (dropWarning c method d).toList)
  let name := fieldName declared method.name
  if isKept d && !fields.contains name then
    let cast ← Diagnosed.ofExcept (r.castOf c name d)
    return fields.insert name
      { withImplementations declared method.name d with cast, accessor := some method.name }
  else return fields

/-- The map with the fields of more accessors, first to last. -/
def addFields (r : Resolver) (c : StubClass) (declared : List FieldDef) :
    FieldMap → List (StubClass × MethodDef) → Diagnosed FieldMap
  | fields, [] => return fields
  | fields, (owner, method) :: accessors => do
    let fields ← r.addField c declared fields owner method
    r.addFields c declared fields accessors

/-- The field map of a class. -/
def fieldMap (r : Resolver) (c : StubClass) : Diagnosed FieldMap :=
  r.addFields c (r.classes.declaredFields c) ∅ (r.classes.visibleAccessors c)

end EntityGen.Resolver
