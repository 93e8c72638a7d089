import EntityGen.Diagnosed
import EntityGen.Target

/-! # Resolving return types

From the return type of an accessor to the descriptor of a field. The first rule that fits counts:

1. a primitive type is stored as it is;
2. a list or set becomes a collection of its elements' entities;
3. an array becomes an array of primitives, or a list of entities, which are in scope by their
   simple name if they are declared in the same outermost class;
4. any other type is a nested class or a class of its own. -/

namespace EntityGen

/-! ## Ancestors -/

namespace ClassSet

/-- Whether the search for a field ends at this type: arrays, primitives and the root of all classes
have no fields of interest. -/
def isFieldless (type : String) : Bool :=
  (TypeName.arrayElement? type).isSome || TypeName.isPrimitive type || type == TypeName.object

/-- Whether the class named `type` or an ancestor at most `steps` links away declares `field`. -/
def declaresWithin (set : ClassSet) (field : String) : (steps : Nat) → (type : String) → Bool
  | steps, type =>
    if isFieldless type then false
    else match set.find? type with
      | none => false
      | some c =>
        if c.declares field then true
        else match steps, c.superclass with
          | steps + 1, some parent => set.declaresWithin field steps parent
          | _, _ => false

/-- Whether a type or one of its ancestors in the set declares `field`. A path through the set that
visits no class twice has fewer links than there are classes. -/
def hasField (set : ClassSet) (type field : String) : Bool :=
  set.declaresWithin field set.classes.length (Name.dotted type)

end ClassSet

/-! ## Rules -/

/-- What types are resolved against. -/
structure Resolver where
  classes : ClassSet
  /-- The top-level class being generated. -/
  outermost : StubClass
  targets : TargetTable
  identityName : String
  identityType : String
  entitySuffix : String

namespace Resolver

/-- The number of fields a class declares. -/
def fieldCount (c : Option StubClass) : Nat := (c.map (·.fields.length)).getD 0

/-- Whether a type as it was written, or the class it means, is nested. -/
def isInner (raw : String) (c : Option StubClass) : Bool :=
  raw.toList.contains '$' || c.any StubClass.isNested

/-- A collection. `raw` is the type as it was written, `type` the same with dots only. -/
def collection (r : Resolver) (raw type : String) : FieldDescriptor :=
  let element := TypeName.argument type
  let c := r.classes.find? element
  { kind := .collection
    resolvedType := some ((r.targets.get? element).getD element)
    stubType := element
    stubSimpleName := Name.simple element
    hasIdentity := r.classes.hasField element r.identityName
    fieldCount := fieldCount c
    isKnownEntity := r.targets.contains element
    isGenericInner := isInner raw c }

/-- An array of elements of a type. -/
def array (r : Resolver) (element : String) : FieldDescriptor :=
  if TypeName.isPrimitive element then
    FieldDescriptor.plain .arrayOfPrimitives element element
  else if Name.isWithin element r.outermost.qualifiedName then
    { kind := .arrayOfInnerClasses
      resolvedType := some (Name.simple element ++ r.entitySuffix)
      stubType := element
      stubSimpleName := Name.simple element
      isKnownEntity := r.targets.contains element }
  else
    { kind := .arrayOfComplexTypes
      resolvedType := r.targets.get? element
      stubType := element
      stubSimpleName := Name.simple element
      isKnownEntity := r.targets.contains element }

/-- A single value that is not primitive. -/
def single (r : Resolver) (raw type : String) : FieldDescriptor :=
  let c := r.classes.find? type
  let resolved := r.targets.get? type
  { kind := if isInner raw c then .innerClass else .complexType
    resolvedType := resolved
    stubType := type
    stubSimpleName := Name.simple type
    hasIdentity := r.classes.hasField type r.identityName
    fieldCount := fieldCount c
    isKnownEntity := resolved.isSome }

/-- The descriptor of a return type. -/
def descriptor (r : Resolver) (returns : String) : FieldDescriptor :=
  let raw := Text.trim returns
  let type := Name.dotted raw
  if TypeName.isPrimitive type then .plain .primitive type (Name.simple type)
  else if TypeName.isCollection type then r.collection raw type
  else match TypeName.arrayElement? type with
    | some element => r.array element
    | none => r.single raw type

/-- What there is to warn of about the accessor of a descriptor: a collection that does not say what
its elements are, a nested class without an entity. -/
def warningFor (owner : StubClass) (method : MethodDef) (d : FieldDescriptor) : Option Warning :=
  match d.kind with
  | .collection =>
    if (TypeName.argument? (Name.dotted (Text.trim method.returns))).isNone then
      some (.untypedCollection owner.qualifiedName method.name)
    else none
  | .innerClass =>
    if d.isDefined then none
    else some (.unmappedType owner.qualifiedName method.name d.stubType .innerClass)
  | _ => none

/-- The descriptor of an accessor that `owner` declares, and what there is to warn of. -/
def resolve (r : Resolver) (owner : StubClass) (method : MethodDef) :
    FieldDescriptor × Option Warning :=
  let d := r.descriptor method.returns
  (d, warningFor owner method d)

end Resolver
end EntityGen
