import EntityGen.Graph

/-! # Summary of a model

What a model and a configuration amount to, without planning a run. -/

namespace EntityGen

/-- The sizes of a model and its tables, and the field map of one class if it was asked for. -/
structure ModelSummary where
  classes : Nat
  entities : Nat
  topLevel : Nat
  providers : Nat
  fieldMap : Option FieldMap
  warnings : List Warning
  deriving DecidableEq, Repr, Inhabited

namespace ClassGraph

/-- The field map of a class by name, if one is given, and the warnings about it. -/
def inspect (g : ClassGraph) : (name : Option String) →
    Except GenerationError (Option FieldMap × List Warning)
  | none => .ok (none, [])
  | some name => do
    let fields := g.fieldMap (← g.findClass name)
    return (some (← fields.result), fields.warnings)

/-- The summary of a graph. -/
def summary (g : ClassGraph) (name : Option String) : Except GenerationError ModelSummary := do
  let (fieldMap, warnings) ← g.inspect name
  return {
    classes := g.classes.classes.length
    entities := g.targets.byStub.size
    topLevel := g.roots.length
    providers := g.providers.size
    fieldMap
    warnings }

end ClassGraph

end EntityGen
