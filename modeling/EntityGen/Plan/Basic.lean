import EntityGen.Context.Factory
import EntityGen.Plan.Entity
import EntityGen.Plan.Fields

/-! # The plan of a run

Everything a run generates: the entities and field interfaces of each root, in order of their names,
and the factory. Planning ends with the error of the first root that has one. -/

namespace EntityGen

/-- What is planned for one root. -/
structure PlannedClass where
  entity : EntityTree
  fields : FieldsTree
  deriving Inhabited

/-- What a run generates. -/
structure Plan where
  entities : List EntityTree
  fields : List FieldsTree
  factory : Factory
  providerInterface : ProviderInterface
  warnings : List Warning
  /-- All warnings that were logged, with those about the fields of embedded strangers. -/
  logged : List Warning

namespace Plan

/-- The number of entity classes, nested ones included. -/
def entityClassCount (p : Plan) : Nat := (p.entities.map Tree.size).foldl (· + ·) 0

/-- The members of the plan's record. -/
def toMembers (p : Plan) : List (String × Json) := [
  ("entities", .array (p.entities.map EntityTree.toJson)),
  ("fields", .array (p.fields.map FieldsTree.toJson)),
  ("factory", p.factory.toJson),
  ("field_provider", p.providerInterface.toJson)]

end Plan

namespace ClassGraph

def factory (g : ClassGraph) : Factory where
  package := g.config.factoryPackage
  providers := g.providers
  fieldsPackage := g.config.fieldsPackage
  date := g.config.date

def providerInterface (g : ClassGraph) : ProviderInterface where
  package := g.config.fieldsPackage
  identityType := g.config.identityType
  date := g.config.date

/-- The plan of one root. -/
def planClass (g : ClassGraph) (root : StubClass) : Diagnosed PlannedClass := do
  let resolved ← g.resolveTree root
  let entity ← g.entityTree resolved
  return { entity, fields := g.fieldsTree false resolved }

/-- The plans of several roots, one after the other. -/
def planClasses (g : ClassGraph) : List StubClass → Diagnosed (List PlannedClass)
  | [] => return []
  | root :: roots => do
    let planned ← g.planClass root
    return planned :: (← g.planClasses roots)

/-- The plan of what was planned for the roots, with the warnings on the way. -/
def assemble (g : ClassGraph) (planned : List PlannedClass) (warnings logged : List Warning) :
    Plan where
  entities := planned.map (·.entity)
  fields := planned.map (·.fields)
  factory := g.factory
  providerInterface := g.providerInterface
  warnings := warnings
  logged := logged

/-- The plan of a run. -/
def plan (g : ClassGraph) : Except GenerationError Plan :=
  let planned := g.planClasses g.roots
  planned.result.map fun classes => g.assemble classes planned.warnings planned.logged

end ClassGraph
end EntityGen
