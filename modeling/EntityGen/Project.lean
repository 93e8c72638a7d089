import EntityGen.Config
import EntityGen.Files.Access
import EntityGen.Log.Level
import EntityGen.RunError
import EntityGen.Toml.Parser

/-! # Project files

A project file sets the configuration in its section `generator` and the paths of the model and the
output in its section `paths`. The command line may override some of it; what comes out of both are
the settings of a run. -/

namespace EntityGen

/-- What a project file sets. -/
structure Project where
  config : Config := {}
  /-- The path of the class model. -/
  model : Option String := none
  /-- The path of the output directory. -/
  output : Option String := none
  deriving DecidableEq, Repr, Inhabited

namespace Project

/-! ## Reading -/

/-- The project file that is read if it is there and no other is given. -/
def defaultPath : String := "soapjpa.toml"

/-- The members of the section about paths. -/
def pathMembers : List String := ["model", "output"]

/-- A section, of an array only as many items as there are members. -/
def sectionOf (members : List String) : Toml → Toml
  | .array items => .array (items.take members.length)
  | .tables items => .tables (items.take members.length)
  | other => other

/-- The sections of a document and whatever else is in it. -/
def sections : Toml → List (String × Toml)
  | .table _ members => members.map fun (key, value) =>
    if key = "generator" then (key, sectionOf Config.members value)
    else if key = "paths" then (key, sectionOf pathMembers value)
    else (key, value)
  | _ => []

/-- The paths that a section sets. -/
def readPaths : Nat → Json → Option (Option String × Option String) :=
  Json.recordOf pathMembers fun _ r => do
    return (← r.optional "model" Json.text?, ← r.optional "output" Json.text?)

/-- Reads a section that may be missing, however deep it is. -/
def readSection (sections : List (String × Toml)) (name : String) (default : α)
    (read : Nat → Json → Option α) : Option α :=
  match sections.lookup name with
  | none => some default
  | some value => read value.toJson.depth value.toJson

/-- The project of a document. -/
def ofDocument? (document : String) : Option Project := do
  let sections := sections (← Toml.parse? document)
  if !sections.all (·.2.isInRange) then none
  let config ← readSection sections "generator" {} Config.read
  let (model, output) ← readSection sections "paths" (none, none) readPaths
  return { config, model, output }

/-- The project of a document, or the error that it holds none. -/
def ofDocument (document : String) : Except RunError Project :=
  match ofDocument? document with
  | some project => .ok project
  | none => .error .parseProject

variable {m : Type → Type} [Monad m] [FileAccess m]

/-- The project of a file. -/
def ofFile (path : String) : ExceptT RunError m Project := do
  match ← FileAccess.readText path with
  | none => throw (.readProject path)
  | some document => ExceptT.mk (pure (ofDocument document))

/-- The project of the given file, or of the default one if it is there, or the empty one. -/
def load (path : Option String) : ExceptT RunError m Project := do
  match path with
  | some path => ofFile path
  | none => if ← FileAccess.isThere defaultPath then ofFile defaultPath else return {}

/-- The record of a project. -/
def toJson (p : Project) : Json :=
  Json.ofMembers [
    ("generator", p.config.toJson),
    ("paths", Json.ofMembers [("model", .ofOption p.model), ("output", .ofOption p.output)])]

/-! ## Checks -/

/-- The log level that is set. -/
def logLevel (p : Project) : Except RunError LogLevel :=
  match LogLevel.ofName? p.config.logLevel with
  | some level => .ok level
  | none => .error (.logLevel p.config.logLevel)

/-- Accepts a project whose settings make sense. -/
def validate (p : Project) : Except RunError Unit := do
  if let some fault := p.config.fault? then throw (.projectSettings fault)
  let _ ← p.logLevel
  if p.model = some "" then throw .emptyModelPath
  if p.output = some "" then throw .emptyOutputPath

end Project

/-! ## Settings -/

/-- What the command line sets for a run. -/
structure RunOptions where
  model : Option String := none
  output : Option String := none
  /-- The path of the project file. -/
  project : Option String := none
  identityName : Option String := none
  identityType : Option String := none
  workers : Option Nat := none
  isVerbose : Bool := false
  deriving DecidableEq, Repr, Inhabited

/-- The settings of a run. -/
structure RunSettings where
  config : Config
  model : String
  output : String
  logLevel : LogLevel
  deriving DecidableEq, Repr, Inhabited

/-- The settings that a project and the command line make together; `now` is the date of a run that
sets none. -/
def Project.settings (p : Project) (options : RunOptions) (now : String) :
    Except RunError RunSettings := do
  p.validate
  let logLevel ← if options.isVerbose then pure .debug else p.logLevel
  let some model := options.model.or p.model | throw .noModel
  let some output := options.output.or p.output | throw .noOutput
  let config := { p.config with
    identityName := options.identityName.getD p.config.identityName
    identityType := options.identityType.getD p.config.identityType
    workers := options.workers.or p.config.workers
    date := p.config.date.or (some now) }
  if let some fault := config.fault? then throw (.commandSettings fault)
  return { config, model, output, logLevel }

end EntityGen
