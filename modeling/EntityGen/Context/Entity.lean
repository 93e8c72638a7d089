import EntityGen.Stranger
import EntityGen.Tree

/-! # What entities are rendered from

The planned entities of a top-level class: a tree, the nested entities below the one they are
declared in. -/

namespace EntityGen

/-- A planned entity class, without those nested in it. -/
structure Entity where
  package : String
  /-- The stub's simple name. -/
  className : String
  /-- The entity's simple name. -/
  entityName : String
  /-- The entity's qualified name. -/
  targetName : String
  /-- The stub's qualified name. -/
  stubClass : String
  /-- The entity is part of another one. -/
  isEmbedded : Bool
  /-- The entity of the superclass, or the root of all classes. -/
  superclass : String
  fields : FieldMap
  /-- The constant's name for each field. -/
  constantNames : NameMap String
  /-- The stubs that the entity can be built from. -/
  constructors : NameSet
  identityName : String
  identityType : String
  fieldsPackage : String
  /-- The field interface of the same stub. -/
  fieldProvider : Option String
  date : Option String
  /-- The fields whose types were moved to the top-level class. -/
  corrections : List OwnershipCorrection
  deriving DecidableEq, Repr, Inhabited

/-- A planned entity class and those nested in it. -/
abbrev EntityTree := Tree Entity

namespace Entity

/-- Whether a field is the identity, up to the case of its letters. -/
def isIdentity (e : Entity) (field : String) : Bool :=
  Text.sameIgnoringCase field e.identityName

/-- The identity field. -/
def identity? (e : Entity) : Option (String × FieldDescriptor) :=
  e.fields.entries.find? fun (name, _) => e.isIdentity name

/-! ## Documents -/

/-- The record's members apart from those about nested entities and corrections. -/
def toMembers (e : Entity) : List (String × Json) := [
  ("package", .ofText e.package),
  ("class_name", .ofText e.className),
  ("entity_name", .ofText e.entityName),
  ("target_name", .ofText e.targetName),
  ("stub_class", .ofText e.stubClass),
  ("is_embedded", .bool e.isEmbedded),
  ("superclass", .ofText e.superclass),
  ("fields", Json.ofMembers (e.fields.entries.map fun (name, d) => (name, d.toJson))),
  ("constant_names", Json.ofMembers (e.constantNames.entries.map fun (f, c) => (f, .ofText c))),
  ("constructors", .ofTexts e.constructors.keys),
  ("identity_field_name", .ofText e.identityName),
  ("identity_field_type", .ofText e.identityType),
  ("fields_package", .ofText e.fieldsPackage),
  ("field_provider", .ofOption e.fieldProvider),
  ("generation_date", .ofOption e.date)]

end Entity

namespace EntityTree

mutual

/-- The record of a planned entity, the nested ones inside it. -/
def toJson : EntityTree → Json
  | .node e nested =>
    Json.ofMembers <| e.toMembers ++ [
      ("nested", .array (toJsonAll nested)),
      ("corrections", .array (e.corrections.map OwnershipCorrection.toJson))]

def toJsonAll : List EntityTree → List Json
  | [] => []
  | t :: ts => toJson t :: toJsonAll ts

end

/-- The corrections of the entity and those nested in it, owners first. -/
def corrections (t : EntityTree) : List OwnershipCorrection := t.values.flatMap (·.corrections)

end EntityTree
end EntityGen
