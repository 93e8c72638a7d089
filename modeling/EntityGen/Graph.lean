import EntityGen.Field.Map

/-! # The class graph of a run

The classes of a model together with a configuration that makes sense, and the tables that follow
from the two: which classes are generated, and under which names. -/

namespace EntityGen

/-- Whether a class is generated: neither its name nor the name of a class around it is
forbidden. -/
def ClassSet.isEligible (classes : ClassSet) (config : Config) (c : StubClass) : Bool :=
  (classes.owners c).all fun owner => !config.isForbidden owner.name

/-- A model and a configuration with their tables. -/
structure ClassGraph where
  classes : ClassSet
  config : Config
  targets : TargetTable
  constructors : ConstructorIndex
  providers : ProviderIndex

namespace ClassGraph

/-- The tables of a model and a configuration. -/
def build (classes : ClassSet) (config : Config) : ClassGraph :=
  let eligible := classes.classes.filter (classes.isEligible config)
  let named (suffix : String) :=
    eligible.map fun c => (c.qualifiedName, Name.suffixed c.binaryName suffix)
  let targets := TargetTable.ofList (named config.entitySuffix)
  { classes, config, targets
    constructors := ConstructorIndex.ofTargets targets
    providers := NameMap.ofList (named config.fieldsSuffix) }

/-- The graph of a model and a configuration, if the configuration has no fault. -/
def make (classes : ClassSet) (config : Config) : Except GenerationError ClassGraph := do
  config.validate
  return build classes config

def isEligible (g : ClassGraph) (c : StubClass) : Bool := g.classes.isEligible g.config c

/-- The top-level classes that are generated, by qualified name. -/
def roots (g : ClassGraph) : List StubClass :=
  (g.classes.topLevel.filter g.isEligible).mergeSort fun a b => a.qualifiedName ≤ b.qualifiedName

/-- The class of a qualified or binary name. -/
def findClass (g : ClassGraph) (name : String) : Except GenerationError StubClass :=
  match g.classes.find? name with
  | some c => .ok c
  | none => .error (.unknownClass name)

/-- What the types of classes inside `outermost` are resolved against. -/
def resolver (g : ClassGraph) (outermost : StubClass) : Resolver where
  classes := g.classes
  outermost := outermost
  targets := g.targets
  identityName := g.config.identityName
  identityType := g.config.identityType
  entitySuffix := g.config.entitySuffix

/-- The field map of a class. -/
def fieldMap (g : ClassGraph) (c : StubClass) : Diagnosed FieldMap :=
  (g.resolver (g.classes.outermost c)).fieldMap c

end ClassGraph
end EntityGen
