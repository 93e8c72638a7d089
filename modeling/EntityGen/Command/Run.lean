import EntityGen.Command.Arguments
import EntityGen.Command.Help
import EntityGen.Generate
import EntityGen.Json.Printer
import EntityGen.Log.Sink
import EntityGen.Summary

/-! # Running commands

A command prints as it goes on and may end early; what it printed until then stays. Warnings are
logged while a run is planned, and those that the log sink holds at the end are shown. -/

namespace EntityGen

/-- Work that prints and may end early. -/
abbrev CommandM (m : Type → Type) := ExceptT RunError (StateT String m)

variable {m : Type → Type} [Monad m]

/-- Work that prints does with files what it can do otherwise. -/
instance [FileAccess m] : FileAccess (StateT String m) where
  readText path := StateT.lift (FileAccess.readText path)
  isThere path := StateT.lift (FileAccess.isThere path)
  createDirs path := StateT.lift (FileAccess.createDirs path)
  writeText path text := StateT.lift (FileAccess.writeText path text)

namespace CommandM

/-- Prints a line. -/
def say (line : String) : CommandM m Unit := modify (· ++ line ++ "\n")

/-- Ends early with an error, or goes on. -/
def check (result : Except RunError α) : CommandM m α := ExceptT.mk (pure result)

end CommandM

open CommandM (say)

/-- How a run ended: the exit code, and what was printed as output and as error. -/
structure Outcome where
  exitCode : Nat
  output : String := ""
  error : String := ""
  deriving DecidableEq, Repr

namespace Command

/-! ## Parts -/

/-- The classes of a file. -/
def loadModel [FileAccess m] (path : String) : CommandM m ClassSet := do
  let classes : Except GenerationError ClassSet := match ← FileAccess.readText path with
    | none => .error .fileAccess
    | some document => ClassSet.ofDocument document
  CommandM.check (classes.mapError (RunError.loadModel path))

/-- The records of the warnings that were logged. -/
def captured (logged : List Warning) : List LogRecord :=
  (logged.foldl (fun sink w => sink.log ⟨.warn, "generator", w.message⟩) ({} : LogSink)).drain.1

/-- A line about files of one kind. -/
def countsLine (title : String) (c : Counts) : String :=
  "✓ " ++ title ++ ": " ++ Nat.repr c.created ++ " generated, " ++ Nat.repr c.skipped ++ " skipped"

/-- Prints the report of a run. -/
def sayReport (r : Report) (logged : List LogRecord) : CommandM m Unit := do
  say (countsLine "Entities" (r.counts .entity))
  say (countsLine "Field interfaces" (r.counts .fields))
  say ("✓ Files written: " ++ Nat.repr r.total.created)
  say ("✓ Model warnings: " ++ Nat.repr r.warnings.length)
  if !logged.isEmpty then
    say ("\nCaptured " ++ Nat.repr logged.length ++ " log warnings:")
    logged.forM fun record => say ("  ⚠ " ++ record.message)

/-- Prints the summary of a model. -/
def saySummary (s : ModelSummary) : CommandM m Unit := do
  say ("✓ Classes: " ++ Nat.repr s.classes)
  say ("✓ Entities: " ++ Nat.repr s.entities ++ " (" ++ Nat.repr s.topLevel ++ " top-level)")
  say ("✓ Field providers: " ++ Nat.repr s.providers)
  if let some fields := s.fieldMap then
    say (Json.ofMembers (fields.entries.map fun (name, d) => (name, d.toJson))).pretty
  s.warnings.forM fun w => say ("⚠ " ++ w.message)

/-! ## Commands -/

/-- Plans a run and writes its files. -/
def runGenerate [FileAccess m] (options : RunOptions) (now : String) : CommandM m Unit := do
  let project ← Project.load options.project
  let settings ← CommandM.check (project.settings options now)
  let classes ← loadModel settings.model
  let plan ← CommandM.check ((planFor classes settings.config).mapError .generation)
  let report ← plan.writeTo settings.output
  sayReport report (captured plan.logged)

/-- Checks a project and perhaps its model. -/
def runCheck [FileAccess m] (project model className : Option String) : CommandM m Unit := do
  say ("Checking project: " ++ project.getD Project.defaultPath)
  let project ← Project.load project
  CommandM.check project.validate
  let config := project.config
  say ("✓ Identity: " ++ config.identityName ++ " (" ++ config.identityType ++ ")")
  say ("✓ Suffixes: entity " ++ config.entitySuffix ++ ", fields " ++ config.fieldsSuffix)
  match model.or project.model with
  | some model =>
    let classes ← loadModel model
    let summary := do (← ClassGraph.make classes config).summary className
    saySummary (← CommandM.check (summary.mapError .generation))
  | none => if className.isSome then throw .classWithoutModel
  say "\nProject is valid!"

/-- Runs a command; `now` is the date of a run that sets none. -/
def run [FileAccess m] (now : String) : Command → CommandM m Unit
  | generate options => runGenerate options now
  | check project model className => runCheck project model className

/-! ## The program -/

/-- What is printed of an error. -/
def errorLine (e : RunError) : String :=
  "Error: " ++ String.intercalate ": " (e.message :: e.pathFault?.toList) ++ "\n"

/-- Runs what a command line asks for. -/
def runArguments [FileAccess m] (now : String) (args : List String) : m Outcome := do
  match ofArguments args with
  | .error (.help about) => return { exitCode := 0, output := Help.about about }
  | .error .version => return { exitCode := 0, output := Help.version }
  | .error .misuse => return { exitCode := 2, error := Help.misuse }
  | .ok command =>
    match ← (command.run now).run.run "" with
    | (.ok (), output) => return { exitCode := 0, output }
    | (.error e, output) =>
      return { exitCode := e.exitCode, output, error := errorLine e }

end Command

end EntityGen
