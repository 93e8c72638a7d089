import EntityGen.Field.Map

/-! # Field maps with a record of warnings

The field map of a class where warnings are put down as they are met. The record is handed from
accessor to accessor; it may hold the warnings of other classes already, and it outlasts an error.
Resolving a type and using it each record what they find, and the accessor is left at once where its
field is dropped or there already. -/

namespace EntityGen

/-- Work that records warnings and may end with an error. -/
abbrev Recorder := ExceptT GenerationError (StateM (List Warning))

/-- Puts a warning at the end of the record if there is reason to. -/
def recordIf (reason : Bool) (warning : Warning) : Recorder Unit :=
  modify (· ++ if reason then [warning] else [])

namespace Resolver

/-- The descriptor of an accessor that `owner` declares. -/
def resolveRecorded (r : Resolver) (owner : StubClass) (method : MethodDef) :
    Recorder FieldDescriptor := do
  let raw := Text.trim method.returns
  let type := Name.dotted raw
  if TypeName.isPrimitive type then
    return .plain .primitive type (Name.simple type)
  else if TypeName.isCollection type then
    recordIf (TypeName.argument? type).isNone
      (.untypedCollection owner.qualifiedName method.name)
    return r.collection raw type
  else match TypeName.arrayElement? type with
    | some element => return r.array element
    | none =>
      recordIf (isInner raw (r.classes.find? type) && (r.targets.get? type).isNone)
        (.unmappedType owner.qualifiedName method.name type .innerClass)
      return r.single raw type

/-- The map with the field of an accessor whose type is resolved, unless the field is dropped or
there already. -/
def useRecorded (r : Resolver) (c : StubClass) (declared : List FieldDef) (fields : FieldMap)
    (method : MethodDef) (d : FieldDescriptor) : Recorder FieldMap :=
  if isReserved d then
    return fields
  else if !d.isDefined then do
    recordIf (d.kind ≠ .innerClass)
      (.unmappedType c.qualifiedName method.name d.stubType d.kind)
    return fields
  else
    let name := fieldName declared method.name
    if fields.contains name then
      return fields
    else do
      let cast ← ExceptT.mk (pure (r.castOf c name d))
      return fields.insert name
        { withImplementations declared method.name d with cast, accessor := some method.name }

/-- The map with the field of one more accessor, `method` of `owner`. -/
def addFieldRecorded (r : Resolver) (c : StubClass) (declared : List FieldDef) (fields : FieldMap)
    (owner : StubClass) (method : MethodDef) : Recorder FieldMap := do
  let d ← r.resolveRecorded owner method
  r.useRecorded c declared fields method d

/-- The map with the fields of more accessors, first to last. -/
def addFieldsRecorded (r : Resolver) (c : StubClass) (declared : List FieldDef) :
    FieldMap → List (StubClass × MethodDef) → Recorder FieldMap
  | fields, [] => return fields
  | fields, (owner, method) :: accessors => do
    let fields ← r.addFieldRecorded c declared fields owner method
    r.addFieldsRecorded c declared fields accessors

/-- The field map of a class. -/
def fieldMapRecorded (r : Resolver) (c : StubClass) : Recorder FieldMap :=
  r.addFieldsRecorded c (r.classes.declaredFields c) ∅ (r.classes.visibleAccessors c)

end Resolver
end EntityGen
