import EntityGen.Context.Entity
import EntityGen.Source.Text

/-! # Sources of entities

An entity becomes a class with a column or an association for each field, a constructor for each
stub it can be built from, and accessors; nested entities become classes inside it. What is written
for a field is decided first, apart from its text: its declared type, its annotations and how a
constructor copies it. -/

namespace EntityGen

/-! ## Annotations -/

/-- How a field is stored. -/
inductive Annotation where
  | id
  | column (name : String)
  | lob
  | transient
  | oneToMany
  | manyToOne
  | elementCollection
  | embedded
  deriving DecidableEq, Repr

namespace Annotation

def text : Annotation → String
  | id => "@Id"
  | column name => "@Column(name = " ++ Source.literal name ++ ")"
  | lob => "@Lob"
  | transient => "@Transient"
  | oneToMany => "@OneToMany(cascade = CascadeType.ALL)"
  | manyToOne => "@ManyToOne(cascade = CascadeType.ALL)"
  | elementCollection => "@ElementCollection"
  | embedded => "@Embedded"

end Annotation

/-- How a constructor fills a field from its stub. -/
inductive Copy where
  /-- The value is converted. -/
  | cast (cast : IdentityCast)
  /-- The value is taken as it is. -/
  | direct
  /-- Each element is wrapped into an entity. -/
  | elements (stubType target : String)
  /-- The value is wrapped into an entity. -/
  | wrapped (target : String)
  deriving DecidableEq, Repr

namespace Entity

/-! ## Decisions -/

/-- The conversion of a field: only the identity is converted. -/
def castOf (e : Entity) (field : String) (d : FieldDescriptor) : Option IdentityCast :=
  if e.isIdentity field then d.cast else none

/-- The declared type of a field. -/
def declaredType (e : Entity) (field : String) (d : FieldDescriptor) : String :=
  match e.castOf field d with
  | some cast => cast.target
  | none => Name.dotted d.declaredType

/-- The column of a field. -/
def columnOf (e : Entity) (field : String) : String := (e.constantNames.get? field).getD field

/-- The annotations of a field. An embedded entity has no identity of its own, and a field that may
hold several types is not stored. -/
def annotations (e : Entity) (field : String) (d : FieldDescriptor) : List Annotation :=
  let column := Annotation.column (e.columnOf field)
  if e.isIdentity field && !e.isEmbedded then [.id, column]
  else if d.isAbstract then [.transient]
  else match d.kind with
    | .primitive => [column]
    | .arrayOfPrimitives => [.lob, column]
    | .arrayOfComplexTypes | .arrayOfInnerClasses | .collection =>
      [if d.hasIdentity then .oneToMany else .elementCollection]
    | .complexType | .innerClass => [if d.hasIdentity then .manyToOne else .embedded]

/-- Whether a field's value is wrapped into an entity. -/
def isWrapped (d : FieldDescriptor) : Bool :=
  d.isKnownEntity && !d.isAbstract && !d.kind.isPlain

/-- The stub type of a field's values: what a moved type was called before it was moved. -/
def stubTypeOf (e : Entity) (field : String) (d : FieldDescriptor) : String :=
  match e.corrections.find? (·.field == field) with
  | some c => c.stubType
  | none => d.stubType

/-- How a field is copied. -/
def copyOf (e : Entity) (field : String) (d : FieldDescriptor) : Copy :=
  match e.castOf field d with
  | some cast => .cast cast
  | none =>
    if !isWrapped d then .direct
    else if d.kind.isArray || d.kind = .collection then
      .elements (Name.dotted (e.stubTypeOf field d)) (Name.dotted d.typeName)
    else .wrapped (Name.dotted d.typeName)

/-- The expression that reads a field from the stub. -/
def readerOf (field : String) (d : FieldDescriptor) : String :=
  "source." ++ d.accessor.getD (Name.accessorOfField field) ++ "()"

end Entity

/-! ## Text -/

/-- The statements that copy a field; `reader` reads it from the stub. -/
def Copy.code (field reader : String) : Copy → List Code
  | cast c =>
    [.line ("this." ++ field ++ " = " ++ reader ++ " == null ? null : "
      ++ c.expression reader ++ ";")]
  | direct => [.line ("this." ++ field ++ " = " ++ reader ++ ";")]
  | elements stubType target => [
    .block ("if (" ++ reader ++ " != null)") [
      .line ("this." ++ field ++ " = new java.util.ArrayList<>();"),
      .block ("for (" ++ stubType ++ " item : " ++ reader ++ ")") [
        .line ("this." ++ field ++ ".add(new " ++ target ++ "(item));")]]]
  | wrapped target =>
    [.line ("this." ++ field ++ " = " ++ reader ++ " == null ? null : new " ++ target
      ++ "(" ++ reader ++ ");")]

namespace Entity

/-- The lines of the class's documentation: its stub and the moved fields. -/
def docLines (e : Entity) : List String :=
  ("Persistent counterpart of " ++ Source.docTag "link" (Name.dotted e.stubClass) ++ ".")
    :: e.corrections.map fun c =>
      "<p>Field " ++ Source.docTag "code" c.field ++ " holds " ++ Name.dotted c.stubType
        ++ ", declared under " ++ Name.dotted c.previousOwner ++ "."

/-- The declaration of a field. -/
def fieldCode (e : Entity) (field : String) (d : FieldDescriptor) : List Code :=
  [.blank]
    ++ (if d.isAbstract then
        Source.docComment ["One of: " ++ String.intercalate ", " d.implementations.keys]
      else [])
    ++ (e.annotations field d).map (fun a => .line a.text)
    ++ [.line ("private " ++ e.declaredType field d ++ " " ++ field ++ ";")]

/-- The constructor that copies a stub. -/
def constructorCode (e : Entity) (stub : String) : List Code := [
  .blank,
  .block ("public " ++ e.entityName ++ "(" ++ Name.dotted stub ++ " source)")
    (e.fields.entries.flatMap fun (field, d) =>
      (e.copyOf field d).code field (readerOf field d))]

/-- The two accessors of a field. -/
def accessorsCode (e : Entity) (field : String) (d : FieldDescriptor) : List Code :=
  let type := e.declaredType field d
  let name := Name.capitalize field
  [ .blank,
    .block ("public " ++ type ++ " get" ++ name ++ "()") [.line ("return " ++ field ++ ";")],
    .blank,
    .block ("public void set" ++ name ++ "(" ++ type ++ " " ++ field ++ ")")
      [.line ("this." ++ field ++ " = " ++ field ++ ";")] ]

/-- What stands before the body of the class. -/
def classHead (e : Entity) (isTop : Bool) : String :=
  (if isTop then "public class " else "public static class ") ++ e.entityName
    ++ (if e.superclass = TypeName.object then "" else " extends " ++ Name.dotted e.superclass)
    ++ " implements java.io.Serializable"

/-- The members of the class apart from nested classes. -/
def membersCode (e : Entity) : List Code :=
  e.fields.entries.flatMap (fun (field, d) => e.fieldCode field d)
    ++ [.blank, .block ("public " ++ e.entityName ++ "()") []]
    ++ e.constructors.keys.flatMap e.constructorCode
    ++ e.fields.entries.flatMap fun (field, d) => e.accessorsCode field d

/-- The class with its documentation; `nested` are the classes inside it. -/
def classCode (e : Entity) (isTop : Bool) (nested : List Code) : List Code :=
  Source.docComment e.docLines ++ Source.generatedMark e.date
    ++ [.line (if e.isEmbedded then "@Embeddable" else "@Entity"),
        .block (e.classHead isTop) (e.membersCode ++ nested)]

end Entity

namespace EntityTree

mutual

/-- The class of an entity with those nested in it. -/
def code (isTop : Bool) : EntityTree → List Code
  | .node e nested => e.classCode isTop (nestedCode nested)

/-- The classes of nested entities, an empty line before each. -/
def nestedCode : List EntityTree → List Code
  | [] => []
  | t :: ts => .blank :: (code false t ++ nestedCode ts)

end

theorem nestedCode_eq_flatMap (ts : List EntityTree) :
    nestedCode ts = ts.flatMap fun t => .blank :: code false t := by
  induction ts with
  | nil => rw [nestedCode, List.flatMap_nil]
  | cons t ts ih => rw [nestedCode, ih, List.flatMap_cons, List.cons_append]

/-- The source file of an entity. -/
def source (t : EntityTree) : String :=
  Source.packageDeclaration t.value.package ++ "import javax.persistence.*;\n\n"
    ++ Code.renderAll 0 (code true t)

end EntityTree

end EntityGen
