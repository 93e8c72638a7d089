import EntityGen.Error
import EntityGen.Files.Path
import EntityGen.Text.Quoted

/-! # Errors of commands

Why a command ends early, what it says then, and with which number it exits. -/

namespace EntityGen

/-- Why a command ends early. -/
inductive RunError where
  | generation (error : GenerationError)
  | loadModel (path : String) (error : GenerationError)
  | readProject (path : String)
  /-- The project file is not well-formed or does not hold what it should. -/
  | parseProject
  /-- The project file's settings make no sense. -/
  | projectSettings (fault : Config.Fault)
  /-- The settings make no sense once those of the command line are applied. -/
  | commandSettings (fault : Config.Fault)
  | logLevel (name : String)
  | emptyModelPath
  | emptyOutputPath
  | noModel
  | noOutput
  | classWithoutModel
  | createDirectory (path : String)
  | writeFile (path : String)
  deriving DecidableEq, Repr

namespace RunError

/-- The error of the generator behind this one. -/
def cause? : RunError → Option GenerationError
  | generation error | loadModel _ error => some error
  | projectSettings fault | commandSettings fault => some (.invalidConfig fault)
  | _ => none

/-- What the command was about; nothing if the generator's error speaks for itself. -/
def context? : RunError → Option String
  | generation _ => none
  | loadModel path _ => some ("Failed to load class model: " ++ Text.quoted path)
  | readProject path => some ("Failed to read project file: " ++ Text.quoted path)
  | parseProject => some "Failed to parse project file"
  | projectSettings _ => some "Invalid [generator] section"
  | commandSettings _ => some "Invalid generator options"
  | logLevel name => some ("Invalid log level: " ++ name)
  | emptyModelPath => some "Model path cannot be empty"
  | emptyOutputPath => some "Output path cannot be empty"
  | noModel => some "No class model given: pass --model or set [paths] model"
  | noOutput => some "No output directory given: pass --output or set [paths] output"
  | classWithoutModel => some "--class needs a class model: pass --model or set [paths] model"
  | createDirectory path => some ("Failed to create directory: " ++ Text.quoted path)
  | writeFile path => some ("Failed to write " ++ Text.quoted path)

/-- The message: what the command was about, then the generator's error. -/
def message (e : RunError) : String :=
  String.intercalate ": " (e.context?.toList ++ (e.cause?.map GenerationError.message).toList)

/-- Why a path was refused, if the path itself is at fault. -/
def pathFault? : RunError → Option String
  | readProject path | createDirectory path | writeFile path =>
    if Path.holdsNul path then some "file name contained an unexpected NUL byte" else none
  | _ => none

/-- The exit code: generator errors have codes of their own. -/
def exitCode (e : RunError) : Nat :=
  match e.cause? with
  | some error => 10 + error.code
  | none => 1

end RunError

end EntityGen
