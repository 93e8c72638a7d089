import EntityGen.NameMap
import EntityGen.Stub.ClassSet

/-! # Making a class set

A class set is made in an arena, class by class. A class goes in before the classes nested in it,
with no nested class to its name yet, and each of these is added to its list once it is in itself.
An index of the qualified names says which are taken. -/

namespace EntityGen

/-- The classes so far and the number of each qualified name. -/
structure Arena where
  classes : List StubClass
  index : NameMap Nat

namespace Arena

def empty : Arena := ⟨[], ∅⟩

/-- The classes as a set. -/
def toSet (a : Arena) : ClassSet := ⟨a.classes⟩

/-- The arena with a class behind the others. -/
def push (a : Arena) (c : StubClass) : Arena :=
  ⟨a.classes ++ [c], a.index.insert c.qualifiedName a.classes.length⟩

/-- The arena with one more class in the list of its owner. -/
def addNested (a : Arena) (owner child : Nat) : Arena :=
  { a with classes := a.classes.modify owner fun c => { c with nested := c.nested ++ [child] } }

/-- The next class, of a definition in the class of number `enclosing` or on top. -/
def nextClass (a : Arena) (enclosing : Option Nat) (d : ClassDef) : StubClass :=
  let (package, qualifiedName, binaryName) := d.names (enclosing.bind (a.classes[·]?))
  { id := a.classes.length, name := d.name, package, qualifiedName, binaryName
    isInterface := d.isInterface
    enclosing
    superclass := d.superclass.map Name.dotted
    fields := d.fields
    methods := d.methods
    nested := [] }

mutual

/-- The arena with the classes of a definition, and the number of the first of them. -/
def insert (a : Arena) (enclosing : Option Nat) : ClassDef → Except ModelFault (Arena × Nat)
  | ⟨package, name, isInterface, superclass, fields, methods, nested⟩ =>
    let c := a.nextClass enclosing
      ⟨package, name, isInterface, superclass, fields, methods, nested⟩
    if Text.allBlank name then .error .emptyName
    else if a.index.contains c.qualifiedName then .error (.duplicate c.qualifiedName)
    else do
      let filled ← insertAll (a.push c) a.classes.length nested
      return (filled, a.classes.length)

/-- The arena with the classes of definitions that lie in the class of number `owner`. -/
def insertAll (a : Arena) (owner : Nat) : List ClassDef → Except ModelFault Arena
  | [] => return a
  | d :: ds => do
    let (filled, child) ← a.insert (some owner) d
    insertAll (filled.addNested owner child) owner ds

end

/-- The arena of the definitions of a model. -/
def ofDefs (defs : List ClassDef) : Except ModelFault Arena :=
  defs.foldlM (fun a d => (·.1) <$> a.insert none d) empty

end Arena
end EntityGen
