import EntityGen.Stub.Definition

/-! # The set of stub classes

The classes of a model, nested ones included, in the order of their definitions, each owner before
the classes nested in it. A class's number is its place in that order.

* `ClassSet.ofDefs` accepts a model whose classes all have names, no two of them the same qualified
  name, and reports the first class in order that breaks this.
* `ClassSet.find?` looks a class up by its qualified or binary name. -/

namespace EntityGen

/-! ## Classes -/

/-- A class of a class set. -/
structure StubClass where
  /-- The place in the set. -/
  id : Nat
  name : String
  package : String
  /-- The name with dots for all separators. -/
  qualifiedName : String
  /-- The name with `$` before each nested class. -/
  binaryName : String
  isInterface : Bool
  /-- The number of the class this one is nested in. -/
  enclosing : Option Nat
  /-- The qualified name of the superclass. -/
  superclass : Option String
  fields : List FieldDef
  methods : List MethodDef
  /-- The numbers of the classes nested directly in this one, in order. -/
  nested : List Nat
  deriving DecidableEq, Repr, Inhabited

namespace StubClass

def isNested (c : StubClass) : Bool := c.enclosing.isSome

/-- The accessors, in order. -/
def accessors (c : StubClass) : List MethodDef := c.methods.filter MethodDef.isAccessor

/-- Whether the class itself has a field or accessor for `field`, up to the case of its letters. -/
def declares (c : StubClass) (field : String) : Bool :=
  c.fields.any (fun f => Text.sameIgnoringCase f.name field)
    || c.accessors.any fun m => Text.sameIgnoringCase (Name.fieldOfAccessor m.name) field

end StubClass

/-! ## Layout of definitions -/

/-- The package, qualified name and binary name of a class defined in `owner`, or on top. -/
def ClassDef.names (d : ClassDef) : (owner : Option StubClass) → String × String × String
  | some o => (o.package, o.qualifiedName ++ "." ++ d.name, o.binaryName ++ "$" ++ d.name)
  | none =>
    if d.package.isEmpty then ("", d.name, d.name)
    else (d.package, d.package ++ "." ++ d.name, d.package ++ "." ++ d.name)

/-- The numbers of the given definitions if they follow each other from `id` on. -/
def ClassDef.idsFrom (id : Nat) : List ClassDef → List Nat
  | [] => []
  | d :: ds => id :: idsFrom (id + d.size) ds

/-- The class of a definition at number `id`. -/
def ClassDef.classAt (d : ClassDef) (owner : Option StubClass) (id : Nat) : StubClass :=
  let (package, qualifiedName, binaryName) := d.names owner
  { id, name := d.name, package, qualifiedName, binaryName
    isInterface := d.isInterface
    enclosing := owner.map (·.id)
    superclass := d.superclass.map Name.dotted
    fields := d.fields
    methods := d.methods
    nested := ClassDef.idsFrom (id + 1) d.nested }

mutual

/-- The classes of a definition from number `id` on, the class itself first. -/
def ClassDef.layout (owner : Option StubClass) (id : Nat) : ClassDef → List StubClass
  | ⟨package, name, isInterface, superclass, fields, methods, nested⟩ =>
    let d : ClassDef := ⟨package, name, isInterface, superclass, fields, methods, nested⟩
    let c := d.classAt owner id
    c :: ClassDef.layoutAll (some c) (id + 1) nested

/-- The classes of definitions side by side, from number `id` on. -/
def ClassDef.layoutAll (owner : Option StubClass) (id : Nat) : List ClassDef → List StubClass
  | [] => []
  | d :: ds => d.layout owner id ++ ClassDef.layoutAll owner (id + d.size) ds

end

/-! ## Class sets -/

/-- What can be wrong with a class model. -/
inductive ModelFault where
  | emptyName
  | duplicate (qualifiedName : String)
  deriving DecidableEq, Repr

def ModelFault.message : ModelFault → String
  | emptyName => "class name cannot be empty"
  | duplicate name => "duplicate class: " ++ name

/-- The first fault among classes in order, the names in `seen` being taken. -/
def firstFault? (seen : List String) : List StubClass → Option ModelFault
  | [] => none
  | c :: cs =>
    if Text.allBlank c.name then some .emptyName
    else if seen.contains c.qualifiedName then some (.duplicate c.qualifiedName)
    else firstFault? (c.qualifiedName :: seen) cs

/-- The classes of a model. -/
structure ClassSet where
  classes : List StubClass
  deriving DecidableEq, Repr, Inhabited

namespace ClassSet

/-- The classes of the definitions, unless a name is empty or comes twice. -/
def ofDefs (defs : List ClassDef) : Except ModelFault ClassSet :=
  let classes := ClassDef.layoutAll none 0 defs
  match firstFault? [] classes with
  | some fault => .error fault
  | none => .ok ⟨classes⟩

/-- The class of a number. -/
def get? (set : ClassSet) (id : Nat) : Option StubClass := set.classes[id]?

/-- The class of a qualified name. -/
def findQualified? (set : ClassSet) (name : String) : Option StubClass :=
  set.classes.find? (·.qualifiedName == name)

/-- The class of a qualified or binary name. -/
def find? (set : ClassSet) (name : String) : Option StubClass :=
  (set.findQualified? name).or (set.findQualified? (Name.dotted name))

/-- The classes that are not nested, in order. -/
def topLevel (set : ClassSet) : List StubClass := set.classes.filter (!·.isNested)

/-- The classes nested directly in a class, in order. -/
def nestedOf (set : ClassSet) (c : StubClass) : List StubClass := c.nested.filterMap set.get?

/-- The superclass, if it belongs to the set. -/
def superclassOf (set : ClassSet) (c : StubClass) : Option StubClass :=
  c.superclass.bind set.find?

/-- The class that a class is nested in. -/
def enclosingOf (set : ClassSet) (c : StubClass) : Option StubClass :=
  c.enclosing.bind set.get?

/-- The class and those around it, innermost first, at most `steps` of the latter. -/
def ownersWithin (set : ClassSet) : (steps : Nat) → StubClass → List StubClass
  | 0, c => [c]
  | steps + 1, c =>
    match set.enclosingOf c with
    | none => [c]
    | some owner => c :: set.ownersWithin steps owner

/-- The class and those around it, innermost first. An owner has a smaller number than the classes
nested in it, so there are no more owners than the class's number. -/
def owners (set : ClassSet) (c : StubClass) : List StubClass :=
  set.ownersWithin c.id c

/-- The top-level class around a class. -/
def outermost (set : ClassSet) (c : StubClass) : StubClass :=
  (set.owners c).getLast?.getD c

/-- Own fields, then those of the superclass; ancestors further up do not count. -/
def declaredFields (set : ClassSet) (c : StubClass) : List FieldDef :=
  c.fields ++ ((set.superclassOf c).map (·.fields)).getD []

/-- Own accessors, then those of the superclass, each with the class that has it. -/
def visibleAccessors (set : ClassSet) (c : StubClass) : List (StubClass × MethodDef) :=
  c.accessors.map (c, ·) ++
    match set.superclassOf c with
    | none => []
    | some s => s.accessors.map (s, ·)

end ClassSet
end EntityGen
