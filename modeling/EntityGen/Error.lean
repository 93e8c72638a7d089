import EntityGen.Config
import EntityGen.Stub.ClassSet

/-! # Errors that end a run

Trouble with a single field is a warning and the field is left out; these errors end the run. -/

namespace EntityGen

/-- Why a run ends. -/
inductive GenerationError where
  /-- The identity field of a class has a type that cannot be converted to the configured one. -/
  | unmappedCast (owner field source target : String)
  | unknownClass (name : String)
  | invalidModel (fault : ModelFault)
  | invalidConfig (fault : Config.Fault)
  /-- A document is not well-formed or does not hold what it should. -/
  | badDocument
  /-- A file cannot be read or written. -/
  | fileAccess
  deriving DecidableEq, Repr

namespace GenerationError

/-- The number by which callers tell errors apart. -/
def code : GenerationError → Nat
  | unmappedCast .. => 1
  | unknownClass _ => 2
  | invalidModel _ => 3
  | invalidConfig _ => 4
  | badDocument => 5
  | fileAccess => 6

/-- The message; what a parser or the system had to say is not repeated. -/
def message : GenerationError → String
  | unmappedCast owner field source target =>
    "no cast from " ++ source ++ " to " ++ target ++ " for identity field '" ++ field ++ "' of "
      ++ owner
  | unknownClass name => "unknown class: " ++ name
  | invalidModel fault => "invalid class model: " ++ fault.message
  | invalidConfig fault => "configuration error: " ++ fault.message
  | badDocument => "JSON error"
  | fileAccess => "I/O error"

end GenerationError

/-- The class set of a class model's document. -/
def ClassSet.ofDocument (document : String) : Except GenerationError ClassSet :=
  match Json.decode? ClassDef.readModel document with
  | none => .error .badDocument
  | some defs => (ClassSet.ofDefs defs).mapError .invalidModel

/-- The configuration of a document. -/
def Config.ofDocument (document : String) : Except GenerationError Config :=
  match Config.ofDocument? document with
  | none => .error .badDocument
  | some config => .ok config

/-- Accepts a configuration without fault. -/
def Config.validate (config : Config) : Except GenerationError Unit :=
  match config.fault? with
  | some fault => .error (.invalidConfig fault)
  | none => .ok ()

end EntityGen
