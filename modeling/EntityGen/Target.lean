import EntityGen.Name
import EntityGen.NameMap

/-! # Tables of generated types

Which generated entity and which field interface belong to a stub, and back: which stubs an entity
is built from. -/

namespace EntityGen

/-! ## Entities of stubs -/

/-- The generated entity's name for each stub, by the stub's qualified name. -/
structure TargetTable where
  byStub : NameMap String
  deriving DecidableEq, Repr, Inhabited

namespace TargetTable

def empty : TargetTable := ⟨∅⟩

/-- The table with `target` for `stub`. -/
def insert (table : TargetTable) (stub target : String) : TargetTable :=
  ⟨table.byStub.insert stub target⟩

/-- The table of a list of pairs; of several with one stub the last counts. -/
def ofList (pairs : List (String × String)) : TargetTable := ⟨NameMap.ofList pairs⟩

/-- The entity of a stub, by the stub's qualified or binary name. -/
def get? (table : TargetTable) (stub : String) : Option String :=
  (table.byStub.get? stub).or (table.byStub.get? (Name.dotted stub))

/-- Whether a stub, by its qualified or binary name, has an entity. -/
def contains (table : TargetTable) (stub : String) : Bool := (table.get? stub).isSome

end TargetTable

/-! ## Stubs of entities -/

/-- The stubs of each generated entity. -/
abbrev ConstructorIndex := NameMap NameSet

namespace ConstructorIndex

/-- The index with `stub` among those of `target`. -/
def addStub (index : ConstructorIndex) (stub target : String) : ConstructorIndex :=
  index.insert target (((index.get? target).getD ∅).add stub)

/-- The stubs of each entity in a table. -/
def ofTargets (table : TargetTable) : ConstructorIndex :=
  table.byStub.entries.foldl (fun index (stub, target) => index.addStub stub target) ∅

/-- The stubs of an entity. -/
def stubsOf (index : ConstructorIndex) (target : String) : NameSet := (index.get? target).getD ∅

end ConstructorIndex

/-! ## Field interfaces of stubs -/

/-- The generated field interface's name for each stub, by the stub's qualified name. -/
abbrev ProviderIndex := NameMap String

end EntityGen
