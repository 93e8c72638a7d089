import EntityGen.Graph
import EntityGen.Tree

/-! # Classes with their fields

The first stage of planning: the tree of a class and the generated classes inside it, each with its
field map. -/

namespace EntityGen

/-- A class with its field map. -/
structure ResolvedClass where
  cls : StubClass
  fields : FieldMap
  deriving DecidableEq, Repr, Inhabited

namespace ClassGraph

/-- The generated classes nested directly in a class, in order. -/
def children (g : ClassGraph) (c : StubClass) : List StubClass :=
  (g.classes.nestedOf c).filter g.isEligible

/-- A class and the generated classes inside it, down to a depth. -/
def treeWithin (g : ClassGraph) : (depth : Nat) → StubClass → Tree StubClass
  | 0, c => .node c []
  | depth + 1, c => .node c ((g.children c).map (g.treeWithin depth))

/-- A class and the generated classes inside it. A chain of nested classes is no longer than the
number of classes. -/
def treeOf (g : ClassGraph) (c : StubClass) : Tree StubClass :=
  g.treeWithin g.classes.classes.length c

/-- A class with its field map. -/
def resolveClass (g : ClassGraph) (c : StubClass) : Diagnosed ResolvedClass := do
  return ⟨c, ← g.fieldMap c⟩

/-- A class and the generated classes inside it, each with its field map. Owners are resolved before
the classes inside them, and those last to first. -/
def resolveTree (g : ClassGraph) (c : StubClass) : Diagnosed (Tree ResolvedClass) :=
  (g.treeOf c).mapLastFirst g.resolveClass

end ClassGraph
end EntityGen
