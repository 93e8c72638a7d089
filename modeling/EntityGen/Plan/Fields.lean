import EntityGen.Context.Fields
import EntityGen.Plan.Resolved

/-! # Planning field interfaces

From a tree of resolved classes to the tree of their field interfaces. -/

namespace EntityGen.ClassGraph

/-- Whether the class of a field's type has the plainly named accessor of the identity. -/
def hasIdentityAccessor (g : ClassGraph) (d : FieldDescriptor) : Bool :=
  (g.classes.find? d.stubType).any fun c =>
    c.accessors.any (·.name == Name.accessorOfField g.config.identityName)

/-- The first field of a map, capitalized; empty if there is none. -/
def firstField (fields : FieldMap) : String :=
  match fields.keys with
  | [] => ""
  | field :: _ => Name.capitalize field

/-- The field interface of a resolved class; `nested` are the classes directly inside it. -/
def fieldsInterface (g : ClassGraph) (c : ResolvedClass) (nested : List ResolvedClass) :
    FieldsInterface :=
  let primitive := c.fields.entries.filter fun (_, d) => d.isPrimitive
  let identityless := c.fields.entries.filter fun (_, d) =>
    !d.isPrimitive && !g.hasIdentityAccessor d
  let primitiveFields := NameSet.ofList (primitive.map (·.1))
  { package := c.cls.package
    className := c.cls.name
    interfaceName := c.cls.name ++ g.config.fieldsSuffix
    isInner := c.cls.isNested
    isEmbedded := true
    constants := NameMap.ofList (c.fields.keys.map fun field => (Name.constant field, field))
    primitiveFields
    identitylessFields := NameSet.ofList (identityless.map fun (field, _) => Name.constant field)
    nestedFirstFields := NameMap.ofList (nested.map fun n => (n.cls.name, firstField n.fields))
    firstField := firstField c.fields
    hasIdentityField := primitiveFields.contains g.config.identityName
    entityClass := g.targets.get? c.cls.qualifiedName
    stubClass := c.cls.qualifiedName
    identityName := g.config.identityName
    identityType := g.config.identityType
    fieldsPackage := g.config.fieldsPackage
    factoryPackage := g.config.factoryPackage
    date := g.config.date }

/-- The field interfaces of a resolved tree; `embedded` says whether the root is part of another
interface. -/
def fieldsTree (g : ClassGraph) (embedded : Bool) (t : Tree ResolvedClass) : FieldsTree :=
  (t.mapWithChildren g.fieldsInterface).mapRoot fun f => { f with isEmbedded := embedded }

/-- The field interfaces of a class and the generated classes inside it. -/
def fieldsContext (g : ClassGraph) (c : StubClass) : Diagnosed FieldsTree := do
  return g.fieldsTree c.isNested (← g.resolveTree c)

end EntityGen.ClassGraph
