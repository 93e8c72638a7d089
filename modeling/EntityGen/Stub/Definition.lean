import EntityGen.Json.Record
import EntityGen.Name

/-! # Definitions of stub classes

A class model is a list of class definitions, as whoever parsed the stubs hands them over: each
class with its fields, methods and nested classes. Definitions are written to documents and read
back; a reader descends as many levels as it is allowed.

`ClassDef.ofJson?` sets the limit so that it never binds. -/

namespace EntityGen

/-! ## Definitions -/

/-- One of the elements that may stand for a field. -/
structure Implementation where
  name : String
  /-- The concrete type; the general entry has none. -/
  type : Option String := none
  deriving DecidableEq, Repr

/-- A declared field. -/
structure FieldDef where
  name : String
  type : String
  /-- The element name that an annotation gives the field. -/
  nameOverride : Option String := none
  /-- The elements an annotation allows in the field's place, in order. -/
  implementations : List Implementation := []
  deriving DecidableEq, Repr

/-- A method. -/
structure MethodDef where
  name : String
  /-- The types of the parameters. -/
  parameters : List String := []
  /-- The return type with its generic arguments. -/
  returns : String
  deriving DecidableEq, Repr

/-- A class or interface with the classes nested in it. -/
structure ClassDef where
  /-- The package; a nested class has its owner's, whatever stands here. -/
  package : String
  name : String
  isInterface : Bool
  /-- The qualified or binary name of the superclass. -/
  superclass : Option String
  fields : List FieldDef
  methods : List MethodDef
  nested : List ClassDef

/-- The names of the implementations that have a concrete type. -/
def FieldDef.concreteImplementations (field : FieldDef) : List String :=
  (field.implementations.filter (·.type.isSome)).map (·.name)

/-- Whether the method is an accessor. -/
def MethodDef.isAccessor (method : MethodDef) : Bool :=
  Name.isAccessor method.name method.parameters.length

mutual

/-- The number of classes in a definition, nested ones included. -/
def ClassDef.size : ClassDef → Nat
  | ⟨_, _, _, _, _, _, nested⟩ => ClassDef.sizeAll nested + 1

/-- The number of classes in several definitions. -/
def ClassDef.sizeAll : List ClassDef → Nat
  | [] => 0
  | d :: ds => d.size + ClassDef.sizeAll ds

end

mutual

/-- The definition without the packages that nested definitions carry to no effect. -/
def ClassDef.withoutInnerPackages : ClassDef → ClassDef
  | ⟨package, name, isInterface, superclass, fields, methods, nested⟩ =>
    ⟨package, name, isInterface, superclass, fields, methods, ClassDef.innerAll nested⟩

/-- Nested definitions without their packages. -/
def ClassDef.innerAll : List ClassDef → List ClassDef
  | [] => []
  | d :: ds => { d.withoutInnerPackages with package := "" } :: ClassDef.innerAll ds

end

/-! ## Reading -/

namespace Implementation

def read : Nat → Json → Option Implementation :=
  Json.recordOf ["name", "type"] fun _ r => do
    return {
      name := ← r.required "name" Json.text?
      type := ← r.optional "type" Json.text? }

end Implementation

namespace FieldDef

def read : Nat → Json → Option FieldDef :=
  Json.recordOf ["name", "type", "name_override", "implementations"] fun levels r => do
    return {
      name := ← r.required "name" Json.text?
      type := ← r.required "type" Json.text?
      nameOverride := ← r.optional "name_override" Json.text?
      implementations :=
        ← r.withDefault "implementations" [] (Json.listOf Implementation.read levels) }

end FieldDef

namespace MethodDef

def read : Nat → Json → Option MethodDef :=
  Json.recordOf ["name", "parameters", "returns"] fun levels r => do
    return {
      name := ← r.required "name" Json.text?
      parameters := ← r.withDefault "parameters" [] (Json.textsOf levels)
      returns := ← r.required "returns" Json.text? }

end MethodDef

namespace ClassDef

/-- The members of a class definition's record. -/
def members : List String :=
  ["package", "name", "interface", "superclass", "fields", "methods", "nested"]

/-- The class definition of a record, with `nestedOf` to read the nested ones. -/
def ofRecord (levels : Nat) (nestedOf : Json → Option (List ClassDef)) (r : Json.Record) :
    Option ClassDef := do
  return {
    package := ← r.withDefault "package" "" Json.text?
    name := ← r.required "name" Json.text?
    isInterface := ← r.withDefault "interface" false Json.bool?
    superclass := ← r.optional "superclass" Json.text?
    fields := ← r.withDefault "fields" [] (Json.listOf FieldDef.read levels)
    methods := ← r.withDefault "methods" [] (Json.listOf MethodDef.read levels)
    nested := ← r.withDefault "nested" [] nestedOf }

/-- A class definition, read as deep as `levels` allow. The array of nested classes takes a level of
its own. -/
def read : (levels : Nat) → Json → Option ClassDef
  | 0, _ => none
  | 1, value => (Json.record? members value).bind (ofRecord 0 fun _ => none)
  | inner + 2, value =>
    (Json.record? members value).bind <| ofRecord (inner + 1) fun nested =>
      match nested with
      | .array items => items.mapM (ClassDef.read inner)
      | _ => none

/-- The definition that a value holds, however deep it is. -/
def ofJson? (value : Json) : Option ClassDef :=
  read value.depth value

/-- The definitions of a list. -/
def readAll : Nat → Json → Option (List ClassDef) :=
  Json.listOf read

/-- The definitions of a class model. -/
def readModel : Nat → Json → Option (List ClassDef) :=
  Json.recordOf ["classes"] fun levels r => r.required "classes" (readAll levels)

end ClassDef

/-! ## Writing -/

/-- A member that is written only if there is a value. -/
def Json.memberIfSome (name : String) : Option String → List (String × Json)
  | none => []
  | some s => [(name, .ofText s)]

def Implementation.toJson (i : Implementation) : Json :=
  Json.ofMembers (("name", .ofText i.name) :: Json.memberIfSome "type" i.type)

def FieldDef.toJson (f : FieldDef) : Json :=
  Json.ofMembers <|
    [("name", .ofText f.name), ("type", .ofText f.type)]
      ++ Json.memberIfSome "name_override" f.nameOverride
      ++ if f.implementations.isEmpty then []
        else [("implementations", .array (f.implementations.map Implementation.toJson))]

def MethodDef.toJson (m : MethodDef) : Json :=
  Json.ofMembers [
    ("name", .ofText m.name),
    ("parameters", .ofTexts m.parameters),
    ("returns", .ofText m.returns)]

mutual

def ClassDef.toJson : ClassDef → Json
  | ⟨package, name, isInterface, superclass, fields, methods, nested⟩ =>
    Json.ofMembers [
      ("package", .ofText package),
      ("name", .ofText name),
      ("interface", .bool isInterface),
      ("superclass", .ofOption superclass),
      ("fields", .array (fields.map FieldDef.toJson)),
      ("methods", .array (methods.map MethodDef.toJson)),
      ("nested", .array (ClassDef.toJsonAll nested))]

def ClassDef.toJsonAll : List ClassDef → List Json
  | [] => []
  | d :: ds => d.toJson :: ClassDef.toJsonAll ds

end

end EntityGen
