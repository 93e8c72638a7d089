import EntityGen.IdentityCast
import EntityGen.Json.Record

/-! # Resolved fields

What the generator knows about one field: how it is stored, the type it gets in the generated
entity, and the stub type it comes from. Descriptors are written to documents and read back. -/

namespace EntityGen

/-! ## Kinds -/

/-- How a field is stored. -/
inductive FieldKind where
  | primitive
  | arrayOfPrimitives
  | arrayOfComplexTypes
  | arrayOfInnerClasses
  | collection
  | complexType
  | innerClass
  deriving DecidableEq, Repr, Inhabited

namespace FieldKind

def all : List FieldKind :=
  [primitive, arrayOfPrimitives, arrayOfComplexTypes, arrayOfInnerClasses, collection, complexType,
    innerClass]

/-- The name a kind goes by in documents and messages. -/
def tag : FieldKind → String
  | primitive => "PRIMITIVE"
  | arrayOfPrimitives => "ARRAY_OF_PRIMITIVES"
  | arrayOfComplexTypes => "ARRAY_OF_COMPLEX_TYPES"
  | arrayOfInnerClasses => "ARRAY_OF_INNER_CLASSES"
  | collection => "COLLECTION"
  | complexType => "COMPLEX_TYPE"
  | innerClass => "INNER_CLASS"

/-- The kind of a name in a document. -/
def ofTag? (tag : String) : Option FieldKind := all.find? (·.tag == tag)

theorem ofTag?_tag (kind : FieldKind) : ofTag? kind.tag = some kind := by
  cases kind <;> decide

def isArray : FieldKind → Bool
  | arrayOfPrimitives | arrayOfComplexTypes | arrayOfInnerClasses => true
  | _ => false

/-- Whether values are stored as they are, without a class of their own. -/
def isPlain : FieldKind → Bool
  | primitive | arrayOfPrimitives => true
  | _ => false

end FieldKind

/-! ## Descriptors -/

/-- The resolved type of one field. -/
structure FieldDescriptor where
  kind : FieldKind
  /-- The type in generated code; `none` if the stub type has no counterpart. -/
  resolvedType : Option String
  /-- The stub type, out of its array or collection. -/
  stubType : String
  stubSimpleName : String
  /-- The stub type or an ancestor of it has the identity field. -/
  hasIdentity : Bool := false
  /-- The number of fields the stub type declares. -/
  fieldCount : Nat := 0
  /-- The stub type has a generated entity. -/
  isKnownEntity : Bool := false
  /-- The elements of the collection are of a nested class. -/
  isGenericInner : Bool := false
  /-- The conversion of an identity field of another type. -/
  cast : Option IdentityCast := none
  /-- The concrete types that may stand for the declared one. -/
  implementations : NameSet := ∅
  /-- The accessor that the value is read from. -/
  accessor : Option String := none
  deriving DecidableEq, Repr, Inhabited

namespace FieldDescriptor

/-- The descriptor of a plain value, whose generated type is its stub type. -/
def plain (kind : FieldKind) (type simpleName : String) : FieldDescriptor where
  kind := kind
  resolvedType := some type
  stubType := type
  stubSimpleName := simpleName

/-- Whether the field can be generated. -/
def isDefined (d : FieldDescriptor) : Bool := d.resolvedType.isSome

/-- Whether the value has to be converted. -/
def requiresCast (d : FieldDescriptor) : Bool := d.cast.isSome

/-- Whether several concrete types may stand for the declared one. -/
def isAbstract (d : FieldDescriptor) : Bool := !d.implementations.isEmpty

def isPrimitive (d : FieldDescriptor) : Bool := d.kind = .primitive

def isString (d : FieldDescriptor) : Bool := d.resolvedType = some TypeName.string

/-- The type in generated code, or the root of all classes. -/
def typeName (d : FieldDescriptor) : String := d.resolvedType.getD TypeName.object

/-- The declared type of the generated field. -/
def declaredType (d : FieldDescriptor) : String :=
  match d.kind with
  | .arrayOfComplexTypes | .arrayOfInnerClasses | .collection =>
    "java.util.List<" ++ d.typeName ++ ">"
  | .arrayOfPrimitives => d.typeName ++ "[]"
  | .primitive | .complexType | .innerClass => d.typeName

/-! ## Documents -/

/-- The members of a descriptor's record. -/
def members : List String := [
  "kind", "resolved_type_name", "original_type_name", "original_simple_name", "has_identity_field",
  "field_count", "is_known_entity", "is_generic_inner_nesting", "cast",
  "polymorphic_implementations", "accessor"]

/-- A descriptor, read as deep as `levels` allow. -/
def read : (levels : Nat) → Json → Option FieldDescriptor :=
  Json.recordOf members fun levels r => do
    return {
      kind := ← r.required "kind" (Json.tagOf FieldKind.ofTag? levels)
      resolvedType := ← r.optional "resolved_type_name" Json.text?
      stubType := ← r.required "original_type_name" Json.text?
      stubSimpleName := ← r.required "original_simple_name" Json.text?
      hasIdentity := ← r.required "has_identity_field" Json.bool?
      fieldCount := ← r.required "field_count" Json.count?
      isKnownEntity := ← r.required "is_known_entity" Json.bool?
      isGenericInner := ← r.required "is_generic_inner_nesting" Json.bool?
      cast := ← r.optional "cast" (Json.tagOf IdentityCast.ofTag? levels)
      implementations :=
        ← r.withDefault "polymorphic_implementations" ∅ fun names =>
          (Json.textsOf levels names).map NameSet.ofList
      accessor := ← r.optional "accessor" Json.text? }

/-- The descriptor that a value holds, however deep it is. -/
def ofJson? (value : Json) : Option FieldDescriptor := read value.depth value

/-- The members that are always written. -/
def plainMembers (d : FieldDescriptor) : List (String × Json) := [
  ("kind", .ofText d.kind.tag),
  ("resolved_type_name", .ofOption d.resolvedType),
  ("original_type_name", .ofText d.stubType),
  ("original_simple_name", .ofText d.stubSimpleName),
  ("has_identity_field", .bool d.hasIdentity),
  ("field_count", .nat d.fieldCount),
  ("is_known_entity", .bool d.isKnownEntity),
  ("is_generic_inner_nesting", .bool d.isGenericInner)]

/-- The members of the record; the last three are left out where there is nothing to say. -/
def toMembers (d : FieldDescriptor) : List (String × Json) :=
  d.plainMembers
    ++ (match d.cast with
      | none => []
      | some cast => [("cast", .ofText cast.tag)])
    ++ (if d.implementations.isEmpty then []
      else [("polymorphic_implementations", .ofTexts d.implementations.keys)])
    ++ (match d.accessor with
      | none => []
      | some accessor => [("accessor", .ofText accessor)])

/-- The record of a descriptor. -/
def toJson (d : FieldDescriptor) : Json := Json.ofMembers d.toMembers

end FieldDescriptor

/-- The resolved fields of a class, by field name. -/
abbrev FieldMap := NameMap FieldDescriptor

end EntityGen
