import EntityGen.IdentityCast
import EntityGen.Json.Record

/-! # Configuration of a run

What can be set for a run, its defaults, the document that sets it, and which settings make sense
together. -/

namespace EntityGen

/-- The settings of one run. -/
structure Config where
  /-- The field that identifies an entity, up to the case of its letters. -/
  identityName : String := "id"
  /-- The type that every entity's identity has. -/
  identityType : String := "java.lang.Long"
  /-- Classes whose name ends with one of these are not generated. -/
  forbiddenSuffixes : List String := ["ObjectFactory", "Factory", "Impl"]
  /-- What the name of an entity ends with. -/
  entitySuffix : String := "JPA"
  /-- What the name of a field interface ends with. -/
  fieldsSuffix : String := "Fields"
  factoryPackage : String := "org.apache.maven.soap.jpa.factory"
  fieldsPackage : String := "org.apache.maven.soap.jpa.fields"
  /-- The date written into the generated files, if any. -/
  date : Option String := none
  /-- The number of workers; left open, the machine decides. -/
  workers : Option Nat := none
  logLevel : String := "info"
  deriving DecidableEq, Repr, Inhabited

namespace Config

/-! ## Faults -/

/-- What can be wrong with a configuration. -/
inductive Fault where
  | emptyIdentityName
  | emptyIdentityType
  | unsupportedIdentityType (type : String)
  | emptyEntitySuffix
  | emptyFieldsSuffix
  | emptyForbiddenSuffix
  | noWorkers
  deriving DecidableEq, Repr

def Fault.message : Fault → String
  | emptyIdentityName => "identity field name cannot be empty"
  | emptyIdentityType => "identity field type cannot be empty"
  | unsupportedIdentityType type => "unsupported identity field type: " ++ type
  | emptyEntitySuffix => "entity suffix cannot be empty"
  | emptyFieldsSuffix => "fields suffix cannot be empty"
  | emptyForbiddenSuffix => "forbidden suffixes cannot contain an empty entry"
  | noWorkers => "worker_threads must be at least 1"

/-- The first fault of a configuration. -/
def fault? (config : Config) : Option Fault :=
  if Text.allBlank config.identityName then some .emptyIdentityName
  else if Text.allBlank config.identityType then some .emptyIdentityType
  else if !TypeName.isPrimitive config.identityType
      && !IdentityCast.isTarget config.identityType then
    some (.unsupportedIdentityType config.identityType)
  else if config.entitySuffix.isEmpty then some .emptyEntitySuffix
  else if config.fieldsSuffix.isEmpty then some .emptyFieldsSuffix
  else if config.forbiddenSuffixes.any String.isEmpty then some .emptyForbiddenSuffix
  else if config.workers = some 0 then some .noWorkers
  else none

/-! ## Rules -/

/-- Whether a class of this simple name is left out. -/
def isForbidden (config : Config) (name : String) : Bool :=
  config.forbiddenSuffixes.any (Text.endsWith name)

/-- The number of workers for a number of jobs: at least one, and no more than there are jobs.
`available` is what the machine offers. -/
def workersFor (config : Config) (available jobs : Nat) : Nat :=
  max 1 (min (config.workers.getD available) (max jobs 1))

/-! ## Documents -/

/-- The members of the configuration's record. -/
def members : List String := [
  "identity_field_name", "identity_field_type", "forbidden_suffixes", "entity_suffix",
  "fields_suffix", "factory_package", "fields_package", "generation_date", "worker_threads",
  "log_level"]

/-- The configuration of a record; what it does not set keeps its default. -/
def ofRecord (levels : Nat) (r : Json.Record) : Option Config := do
  let standard : Config := {}
  let textOr (name default : String) := r.withDefault name default Json.text?
  return {
    identityName := ← textOr "identity_field_name" standard.identityName
    identityType := ← textOr "identity_field_type" standard.identityType
    forbiddenSuffixes :=
      ← r.withDefault "forbidden_suffixes" standard.forbiddenSuffixes (Json.textsOf levels)
    entitySuffix := ← textOr "entity_suffix" standard.entitySuffix
    fieldsSuffix := ← textOr "fields_suffix" standard.fieldsSuffix
    factoryPackage := ← textOr "factory_package" standard.factoryPackage
    fieldsPackage := ← textOr "fields_package" standard.fieldsPackage
    date := ← r.optional "generation_date" Json.text?
    workers := ← r.optional "worker_threads" Json.count?
    logLevel := ← textOr "log_level" standard.logLevel }

/-- The configuration that a value sets. -/
def read : Nat → Json → Option Config := Json.recordOf members ofRecord

/-- The configuration of a document; the empty document sets nothing. -/
def ofDocument? (document : String) : Option Config :=
  if document.isEmpty then some {} else Json.decode? read document

/-- The record of a configuration. -/
def toJson (config : Config) : Json :=
  Json.ofMembers [
    ("identity_field_name", .ofText config.identityName),
    ("identity_field_type", .ofText config.identityType),
    ("forbidden_suffixes", .ofTexts config.forbiddenSuffixes),
    ("entity_suffix", .ofText config.entitySuffix),
    ("fields_suffix", .ofText config.fieldsSuffix),
    ("factory_package", .ofText config.factoryPackage),
    ("fields_package", .ofText config.fieldsPackage),
    ("generation_date", .ofOption config.date),
    ("worker_threads", (config.workers.map Json.nat).getD .null),
    ("log_level", .ofText config.logLevel)]

end Config
end EntityGen
