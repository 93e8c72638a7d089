import EntityGen.Json.Basic
import EntityGen.NameMap
import EntityGen.Tree

/-! # What field interfaces are rendered from

The planned field interfaces of a top-level class: a tree, the nested interfaces below the one they
are declared in. -/

namespace EntityGen

/-- A planned field interface, without those nested in it. -/
structure FieldsInterface where
  package : String
  /-- The stub's simple name. -/
  className : String
  /-- The interface's simple name. -/
  interfaceName : String
  /-- The stub is nested. -/
  isInner : Bool
  /-- The interface is part of another one. -/
  isEmbedded : Bool
  /-- The field for each constant. -/
  constants : NameMap String
  /-- The fields of primitive types. -/
  primitiveFields : NameSet
  /-- The constants of the other fields whose types have no identity accessor. -/
  identitylessFields : NameSet
  /-- The first field of each nested class, capitalized, by the class's simple name. -/
  nestedFirstFields : NameMap String
  /-- The first field, capitalized; empty if there is none. -/
  firstField : String
  /-- The identity is among the primitive fields. -/
  hasIdentityField : Bool
  /-- The entity of the same stub. -/
  entityClass : Option String
  /-- The stub's qualified name. -/
  stubClass : String
  identityName : String
  identityType : String
  fieldsPackage : String
  factoryPackage : String
  date : Option String
  deriving DecidableEq, Repr, Inhabited

/-- A planned field interface and those nested in it. -/
abbrev FieldsTree := Tree FieldsInterface

namespace FieldsInterface

/-- The number of constants. -/
def fieldCount (f : FieldsInterface) : Nat := f.constants.size

/-- The record's members before those about nested interfaces. -/
def membersBefore (f : FieldsInterface) : List (String × Json) := [
  ("package", .ofText f.package),
  ("class_name", .ofText f.className),
  ("interface_name", .ofText f.interfaceName),
  ("is_inner", .bool f.isInner),
  ("is_embedded", .bool f.isEmbedded),
  ("constants", Json.ofMembers (f.constants.entries.map fun (c, field) => (c, .ofText field))),
  ("primitive_fields", .ofTexts f.primitiveFields.keys),
  ("identityless_fields", .ofTexts f.identitylessFields.keys)]

/-- The record's members after those about nested interfaces. -/
def membersAfter (f : FieldsInterface) : List (String × Json) := [
  ("nested_first_fields",
    Json.ofMembers (f.nestedFirstFields.entries.map fun (c, field) => (c, .ofText field))),
  ("first_field", .ofText f.firstField),
  ("is_containing_ident_field", .bool f.hasIdentityField),
  ("entity_class", .ofOption f.entityClass),
  ("stub_class", .ofText f.stubClass),
  ("identity_field_name", .ofText f.identityName),
  ("identity_field_type", .ofText f.identityType),
  ("fields_package", .ofText f.fieldsPackage),
  ("factory_package", .ofText f.factoryPackage),
  ("generation_date", .ofOption f.date)]

end FieldsInterface

namespace FieldsTree

mutual

/-- The record of a planned field interface, the nested ones inside it. -/
def toJson : FieldsTree → Json
  | .node f nested =>
    Json.ofMembers (f.membersBefore ++ [("nested", .array (toJsonAll nested))] ++ f.membersAfter)

def toJsonAll : List FieldsTree → List Json
  | [] => []
  | t :: ts => toJson t :: toJsonAll ts

end

end FieldsTree
end EntityGen
