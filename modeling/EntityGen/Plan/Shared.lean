import EntityGen.Plan.Basic
import EntityGen.Pool

/-! # Planning by several workers

The roots of a graph are independent of each other, so workers may share them. What they come to is
put together in the order of the roots. -/

namespace EntityGen

/-- What is planned for one root, with the warnings on the way. -/
structure PlannedRoot where
  planned : PlannedClass
  warnings : List Warning
  logged : List Warning

namespace ClassGraph

/-- The job of a worker: the plan of one root. -/
def planRoot (g : ClassGraph) (root : StubClass) : Except GenerationError PlannedRoot :=
  let d := g.planClass root
  d.result.map fun planned => { planned, warnings := d.warnings, logged := d.logged }

/-- How many workers share the roots; `available` is what the machine offers. -/
def workerCount (g : ClassGraph) (available : Nat) : Nat :=
  g.config.workersFor available g.roots.length

/-- The state of the workers after the steps of a schedule. -/
def runWorkers (g : ClassGraph) (workers : Nat) (schedule : List Nat) :
    Pool.State StubClass GenerationError PlannedRoot :=
  (Pool.start workers).run g.planRoot g.roots schedule

/-- The plan that the workers come to. -/
def planBy (g : ClassGraph) (workers : Nat) (schedule : List Nat) : Except GenerationError Plan :=
  (g.runWorkers workers schedule).outcome.map fun roots =>
    g.assemble (roots.map (·.planned)) (roots.flatMap (·.warnings)) (roots.flatMap (·.logged))

end ClassGraph

end EntityGen
