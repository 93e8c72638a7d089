import EntityGen.Files.Access
import EntityGen.RunError
import EntityGen.Source.File

/-! # Writing the generated files

A run writes the planned files below an output directory. Entities and field interfaces are written
only where nothing is yet, so that edits by hand survive; the factory and the common interface are
written anew each time. The first failure ends the run and leaves what was written before it. -/

namespace EntityGen

variable {m : Type → Type} [Monad m] [FileAccess m]

namespace Artifact

/-- Writes a file, over what was there. -/
def write (root : String) (a : Artifact) : ExceptT RunError m WriteOutcome := do
  let path := a.file.pathIn root
  let directory := Path.parent path
  if !(← FileAccess.createDirs directory) then throw (.createDirectory directory)
  if !(← FileAccess.writeText path a.text) then throw (.writeFile path)
  return .created

/-- Writes a file unless there is something already. -/
def writeIfAbsent (root : String) (a : Artifact) : ExceptT RunError m WriteOutcome := do
  if ← FileAccess.isThere (a.file.pathIn root) then return .skipped
  a.write root

end Artifact

namespace Report

/-- The report of a run with one more file. -/
def addWritten (root : String) (r : Report) (a : Artifact) : ExceptT RunError m Report := do
  return r.record a.kind (← a.write root)

/-- The report of a run with more files that are written where nothing is yet. -/
def addAbsent (root : String) : Report → List Artifact → ExceptT RunError m Report
  | r, [] => return r
  | r, a :: artifacts => do
    addAbsent root (r.record a.kind (← a.writeIfAbsent root)) artifacts

end Report

/-- Writes all files of a plan. -/
def Plan.writeTo (root : String) (p : Plan) : ExceptT RunError m Report := do
  let r := Report.addWarnings {} p.warnings
  let r ← r.addAbsent root (p.entities.map EntityTree.artifact)
  let r ← r.addWritten root p.providerInterface.artifact
  let r ← r.addAbsent root (p.fields.map FieldsTree.artifact)
  r.addWritten root p.factory.artifact

/-- The plan for a model and a configuration. -/
def planFor (classes : ClassSet) (config : Config) : Except GenerationError Plan := do
  (← ClassGraph.make classes config).plan

/-- Plans a run and writes its files below `root`. -/
def generate (classes : ClassSet) (config : Config) (root : String) :
    ExceptT RunError m Report := do
  let plan ← ExceptT.mk (pure ((planFor classes config).mapError RunError.generation))
  plan.writeTo root

/-- What a run below `root` comes to, and the tree of files after it. -/
def FileTree.generate (t : FileTree) (classes : ClassSet) (config : Config) (root : String) :
    Except RunError Report × FileTree :=
  (EntityGen.generate (m := StateM FileTree) classes config root).run t

end EntityGen
