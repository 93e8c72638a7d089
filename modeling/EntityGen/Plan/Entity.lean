import EntityGen.Context.Entity
import EntityGen.Plan.Resolved

/-! # Planning entities

From a tree of resolved classes to the tree of their entities. Strangers among the fields are moved
to the top-level class; their types become embedded entities directly below its entity, under names
that no other entity there has. -/

namespace EntityGen

/-! ## Names among nested entities -/

/-- `base`, or `base` with the least number from 2 on that gives a name not taken. -/
def freeName (taken : List String) (base : String) : String :=
  if !taken.contains base then base
  else
    -- one of as many numbers as there are names, and one more, is free
    let numbered := (List.range (taken.length + 1)).map fun i => base ++ Nat.repr (i + 2)
    (numbered.find? (!taken.contains ·)).getD base

/-! ## Moving a field's type -/

namespace Entity

/-- The correction with `target` as generated type, if it is about `stubType`. -/
def retargetCorrection (stubType target : String) (c : OwnershipCorrection) : OwnershipCorrection :=
  if c.stubType = stubType then
    { c with descriptor := { c.descriptor with resolvedType := some target } }
  else c

/-- The entity with `target` as generated type of the fields that were moved with `stubType`. -/
def retarget (stubType target : String) (e : Entity) : Entity :=
  let moved := (e.corrections.filter (·.stubType = stubType)).map (·.field)
  { e with
    corrections := e.corrections.map (retargetCorrection stubType target)
    fields := moved.foldl
      (fun fields name => fields.modify name fun d => { d with resolvedType := some target })
      e.fields }

end Entity

namespace EntityTree

/-- The names of the entities directly below the root. -/
def nestedNames (t : EntityTree) : List String := t.children.map (·.value.entityName)

/-- The tree with `target` as generated type wherever `stubType` was moved. -/
def retarget (stubType target : String) (t : EntityTree) : EntityTree :=
  t.map (Entity.retarget stubType target)

/-- The moved types of a tree with their generated types; of several for one the first counts. -/
def strangers (t : EntityTree) : NameMap String :=
  t.corrections.foldl (fun types c =>
    match c.descriptor.resolvedType with
    | some target => types.insertIfNew c.stubType target
    | none => types) ∅

end EntityTree

namespace ClassGraph

/-! ## Entities of one tree -/

/-- The corrections of a resolved class whose top-level class is `outermost`. -/
def correctionsOf (g : ClassGraph) (outermost : StubClass) (c : ResolvedClass) :
    List OwnershipCorrection :=
  Stranger.corrections g.classes g.targets outermost c.fields

/-- The entity of a resolved class with some of its fields corrected. -/
def entity (g : ClassGraph) (corrections : List OwnershipCorrection) (c : ResolvedClass) : Entity :=
  let fields := corrections.foldl (fun m k => m.insert k.field k.descriptor) c.fields
  let targetName := (g.targets.get? c.cls.qualifiedName).getD
    (Name.suffixed c.cls.binaryName g.config.entitySuffix)
  { package := c.cls.package
    className := c.cls.name
    entityName := c.cls.name ++ g.config.entitySuffix
    targetName
    stubClass := c.cls.qualifiedName
    isEmbedded := true
    superclass := (c.cls.superclass.bind g.targets.get?).getD TypeName.object
    fields
    constantNames := fields.map fun field _ => Name.constant field
    constructors := g.constructors.stubsOf targetName
    identityName := g.config.identityName
    identityType := g.config.identityType
    fieldsPackage := g.config.fieldsPackage
    fieldProvider := g.providers.get? c.cls.qualifiedName
    date := g.config.date
    corrections }

/-- The entities of a tree with its strangers moved to `outermost`, before they are embedded. -/
def ownEntities (g : ClassGraph) (outermost : StubClass) (t : Tree ResolvedClass) : EntityTree :=
  (t.map fun c => g.entity (g.correctionsOf outermost c) c).mapRoot fun e =>
    { e with isEmbedded := t.value.cls.isNested }

/-! ## Strangers -/

/-- The entities of a stranger's class, nothing in them corrected, under a name of their own. -/
def strangerEntities (g : ClassGraph) (stubType entityName targetName : String)
    (t : Tree ResolvedClass) : EntityTree :=
  (t.map (g.entity [])).mapRoot fun e =>
    { e with entityName, targetName, constructors := e.constructors.add stubType }

/-- The entity name and the qualified name of a stranger below `t`, and `t` with the latter in place
of `target` if that had to change: where the simple name of `target` is taken, the stranger gets a
free name that starts with the name of its class's owner. -/
def nameStranger (g : ClassGraph) (t : EntityTree) (c : StubClass) (stubType target : String) :
    EntityTree × String × String :=
  let name := Name.simple target
  if t.nestedNames.contains name then
    let owner := ((g.classes.enclosingOf c).map (·.name)).getD ""
    let free := freeName t.nestedNames (owner ++ name)
    let renamed := Name.parent target ++ "." ++ free
    (t.retarget stubType renamed, free, renamed)
  else (t, name, target)

/-- The tree with a stranger's entities below the root. The warnings about the stranger's fields
belong to its own class. -/
def embedStranger (g : ClassGraph) (t : EntityTree) (stubType target : String) :
    Diagnosed EntityTree :=
  match g.classes.find? stubType with
  | none => return t
  | some c => do
    let (t, entityName, targetName) := g.nameStranger t c stubType target
    let resolved ← (g.resolveTree c).muted
    return t.addChild (g.strangerEntities stubType entityName targetName resolved)

/-- The tree with the entities of all strangers below the root, in order of their types. -/
def embedStrangers (g : ClassGraph) : EntityTree → List (String × String) → Diagnosed EntityTree
  | t, [] => return t
  | t, (stubType, target) :: strangers => do
    let t ← g.embedStranger t stubType target
    g.embedStrangers t strangers

/-- The entities of a resolved tree. Only a top-level class embeds strangers. -/
def entityTree (g : ClassGraph) (t : Tree ResolvedClass) : Diagnosed EntityTree :=
  let own := g.ownEntities (g.classes.outermost t.value.cls) t
  if t.value.cls.isNested then return own
  else g.embedStrangers own own.strangers.entries

/-- The entities of a class and the generated classes inside it. -/
def entityContext (g : ClassGraph) (c : StubClass) : Diagnosed EntityTree := do
  g.entityTree (← g.resolveTree c)

end ClassGraph
end EntityGen
