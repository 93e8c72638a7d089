import EntityGen.Field.Resolver

/-! # Fields whose type belongs elsewhere

A stranger is a field whose type is a nested class of another top-level class. If that class has no
identity it is embedded into the entity that is being generated, whose own it becomes; a correction
records the new name of the field's type. Types with an identity stay where they are. -/

namespace EntityGen

/-- The move of one field's type to a new owner. -/
structure OwnershipCorrection where
  field : String
  /-- The class that declares the nested type. -/
  previousOwner : String
  /-- The class that owns it now. -/
  newOwner : String
  /-- The nested type as it was. -/
  stubType : String
  /-- The field's descriptor with the new names. -/
  descriptor : FieldDescriptor
  deriving DecidableEq, Repr, Inhabited

/-- The record of a correction. -/
def OwnershipCorrection.toJson (c : OwnershipCorrection) : Json :=
  Json.ofMembers [
    ("field", .ofText c.field),
    ("previous_owner", .ofText c.previousOwner),
    ("new_owner", .ofText c.newOwner),
    ("stub_type", .ofText c.stubType),
    ("descriptor", c.descriptor.toJson)]

namespace Stranger

/-- Whether a field refers to a nested class. -/
def refersToNested (d : FieldDescriptor) : Bool :=
  match d.kind with
  | .innerClass => true
  | .collection => d.isGenericInner
  | _ => false

/-- Whether a field is a stranger in `current`. -/
def isStranger (current : String) (d : FieldDescriptor) : Bool :=
  refersToNested d && !d.hasIdentity && !Name.isWithin d.stubType current

/-- The strangers among the fields, in order of their names. -/
def find (current : String) (fields : FieldMap) : List (String × FieldDescriptor) :=
  fields.entries.filter fun (_, d) => isStranger current d

/-- The class that declares a nested type, or the path that the type's name is in. -/
def ownerOf (classes : ClassSet) (stubType : String) : String :=
  match (classes.find? stubType).bind classes.enclosingOf with
  | some owner => owner.qualifiedName
  | none => Name.parent stubType

/-- A name below `source` as a name below `target`. -/
def reroot? (name source target : String) : Option String :=
  match Text.strip? source.toList name.toList with
  | some ('.' :: rest) => some (target ++ String.ofList ('.' :: rest))
  | _ => none

/-- The descriptor of a stranger moved from `owner` to `current`: the owner's name gives way to the
current class's in the stub type, and the generated type moves from one entity to the other if both
are known. -/
def moved (targets : TargetTable) (owner : String) (current : StubClass) (d : FieldDescriptor) :
    FieldDescriptor :=
  let resolved := do
    reroot? (← d.resolvedType) (← targets.get? owner) (← targets.get? current.qualifiedName)
  { d with
    stubType := Name.replacePart d.stubType (Name.simple owner) current.name
    resolvedType := resolved.or d.resolvedType }

/-- The corrections that move the strangers among the fields to `current`. -/
def corrections (classes : ClassSet) (targets : TargetTable) (current : StubClass)
    (fields : FieldMap) : List OwnershipCorrection :=
  (find current.qualifiedName fields).map fun (field, d) =>
    let owner := ownerOf classes d.stubType
    { field
      previousOwner := owner
      newOwner := current.qualifiedName
      stubType := d.stubType
      descriptor := moved targets owner current d }

end Stranger
end EntityGen
