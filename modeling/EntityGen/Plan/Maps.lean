import EntityGen.Plan.Basic

/-! # Planning from collected field maps

The planner in two passes. A worklist first collects the field maps of a class and the generated
classes inside it; the recursions that build entities and field interfaces walk these classes again
and look their maps up. A class whose map was not collected would end the run as unknown. -/

namespace EntityGen

/-- Field maps by the ids of their classes; of several for one id the latest counts. -/
abbrev FieldMaps := List (Nat × FieldMap)

/-- The field map of a class among those collected. -/
def FieldMaps.of (maps : FieldMaps) (c : StubClass) : Except GenerationError FieldMap :=
  match maps.lookup c.id with
  | some fields => .ok fields
  | none => .error (.unknownClass c.qualifiedName)

/-- The generated types of moved types with those of more corrections; the first for a type
counts. -/
def addStrangers (corrections : List OwnershipCorrection) (types : NameMap String) :
    NameMap String :=
  corrections.foldl (fun types c =>
    match c.descriptor.resolvedType with
    | some target => types.insertIfNew c.stubType target
    | none => types) types

namespace ClassGraph

/-! ## Collecting -/

/-- The field maps of the classes on a stack and of the generated classes inside them, on top of
`maps`. Each step takes one class from the stack. -/
def collectMaps (g : ClassGraph) : (steps : Nat) → List StubClass → FieldMaps → Diagnosed FieldMaps
  | 0, _, maps => return maps
  | _ + 1, [], maps => return maps
  | steps + 1, c :: pending, maps => do
    let fields ← g.fieldMap c
    g.collectMaps steps ((g.children c).reverse ++ pending) ((c.id, fields) :: maps)

/-- The field maps of a class and the generated classes inside it. No class comes on the stack
twice. -/
def treeMaps (g : ClassGraph) (c : StubClass) : Diagnosed FieldMaps :=
  g.collectMaps g.classes.classes.length [c] []

/-! ## Building -/

/-- The corrections of a class, if there are to be any. -/
def correctionsIf (g : ClassGraph) (correct : Bool) (outermost : StubClass) (c : ResolvedClass) :
    List OwnershipCorrection :=
  if correct then g.correctionsOf outermost c else []

/-- What builds entities; the state holds the generated types of the strangers met so far. -/
abbrev EntityBuilder := StateT (NameMap String) (Except GenerationError)

/-- The entity of a class, above those that `nested` builds. -/
def buildEntityNode (g : ClassGraph) (maps : FieldMaps) (outermost : StubClass)
    (correct embedded : Bool) (c : StubClass) (nested : EntityBuilder (List EntityTree)) :
    EntityBuilder EntityTree := do
  let fields ← maps.of c
  let corrections := g.correctionsIf correct outermost ⟨c, fields⟩
  modify (addStrangers corrections)
  return .node { g.entity corrections ⟨c, fields⟩ with isEmbedded := embedded } (← nested)

/-- The entities of a class and the generated classes inside it, down to a depth. -/
def buildEntity (g : ClassGraph) (maps : FieldMaps) (outermost : StubClass) (correct : Bool) :
    (depth : Nat) → (embedded : Bool) → StubClass → EntityBuilder EntityTree
  | 0, embedded, c => g.buildEntityNode maps outermost correct embedded c (return [])
  | depth + 1, embedded, c => g.buildEntityNode maps outermost correct embedded c <|
      (g.children c).mapM (g.buildEntity maps outermost correct depth true)

/-- The field interface of a class, above those that `nested` builds. -/
def buildFieldsNode (g : ClassGraph) (maps : FieldMaps) (embedded : Bool) (c : StubClass)
    (nested : Except GenerationError (List FieldsTree)) : Except GenerationError FieldsTree := do
  let fields ← maps.of c
  let nested ← nested
  let nestedFirstFields :=
    NameMap.ofList (nested.map fun n => (n.value.className, n.value.firstField))
  return .node { g.fieldsInterface ⟨c, fields⟩ [] with isEmbedded := embedded, nestedFirstFields }
    nested

/-- The field interfaces of a class and the generated classes inside it, down to a depth. -/
def buildFields (g : ClassGraph) (maps : FieldMaps) :
    (depth : Nat) → (embedded : Bool) → StubClass → Except GenerationError FieldsTree
  | 0, embedded, c => g.buildFieldsNode maps embedded c (return [])
  | depth + 1, embedded, c => g.buildFieldsNode maps embedded c <|
      (g.children c).mapM (g.buildFields maps depth true)

/-! ## Strangers -/

/-- The tree with a stranger's entities below the root, built from maps of their own. -/
def embedStrangerFromMaps (g : ClassGraph) (outermost : StubClass) (t : EntityTree)
    (stubType target : String) : Diagnosed EntityTree :=
  match g.classes.find? stubType with
  | none => return t
  | some c => do
    let (t, entityName, targetName) := g.nameStranger t c stubType target
    let maps ← (g.treeMaps c).muted
    let (embedded, _) ← Diagnosed.ofExcept
      ((g.buildEntity maps outermost false g.classes.classes.length true c).run ∅)
    return t.addChild <| embedded.mapRoot fun e =>
      { e with entityName, targetName, constructors := e.constructors.add stubType }

/-- The entities of a class from the maps of its tree. Only a top-level class embeds strangers. -/
def entityFromMaps (g : ClassGraph) (c : StubClass) (maps : FieldMaps) : Diagnosed EntityTree := do
  let outermost := g.classes.outermost c
  let (own, strangers) ← Diagnosed.ofExcept
    ((g.buildEntity maps outermost true g.classes.classes.length c.isNested c).run ∅)
  if c.isNested then return own
  else strangers.entries.foldlM (fun t stranger =>
    g.embedStrangerFromMaps outermost t stranger.1 stranger.2) own

/-! ## Contexts and plans -/

/-- The entities of a class and the generated classes inside it. -/
def entityContextFromMaps (g : ClassGraph) (c : StubClass) : Diagnosed EntityTree := do
  g.entityFromMaps c (← g.treeMaps c)

/-- The field interfaces of a class and the generated classes inside it. -/
def fieldsContextFromMaps (g : ClassGraph) (c : StubClass) : Diagnosed FieldsTree := do
  let maps ← g.treeMaps c
  Diagnosed.ofExcept (g.buildFields maps g.classes.classes.length c.isNested c)

/-- The plan of one root. -/
def planClassFromMaps (g : ClassGraph) (root : StubClass) : Diagnosed PlannedClass := do
  let maps ← g.treeMaps root
  let entity ← g.entityFromMaps root maps
  let fields ← Diagnosed.ofExcept (g.buildFields maps g.classes.classes.length false root)
  return { entity, fields }

/-- The plan of a run. -/
def planFromMaps (g : ClassGraph) : Except GenerationError Plan :=
  let planned := g.roots.mapM g.planClassFromMaps
  planned.result.map fun classes => g.assemble classes planned.warnings planned.logged

end ClassGraph
end EntityGen
