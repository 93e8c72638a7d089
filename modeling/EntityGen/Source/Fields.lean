import EntityGen.Context.Fields
import EntityGen.Source.Text

/-! # Sources of field interfaces

A field interface holds a constant with the name of each field, and static methods that answer what
kinds of fields there are. Nested interfaces stand inside it. -/

namespace EntityGen

namespace FieldsInterface

/-- A static method that answers with `value`. -/
def answerCode (type name value : String) : List Code := [
  .blank,
  .block ("static " ++ type ++ " " ++ name ++ "()") [.line ("return " ++ value ++ ";")]]

/-- The expression for a list of constants. -/
def listOf (constants : List String) : String :=
  "java.util.Arrays.asList(" ++ String.intercalate ", " constants ++ ")"

/-- The expression for a map of texts. -/
def mapOf (entries : List (String × String)) : String :=
  let entry := fun (key, value) =>
    "java.util.Map.entry(" ++ Source.literal key ++ ", " ++ Source.literal value ++ ")"
  "java.util.Map.ofEntries(" ++ String.intercalate ", " (entries.map entry) ++ ")"

/-- The lines of the interface's documentation. -/
def docLines (f : FieldsInterface) : List String := [
  "Field names of " ++ Source.docTag "link" (Name.dotted f.stubClass) ++ ".",
  "<p>Providers are looked up through "
    ++ Source.docTag "code" (f.factoryPackage ++ "." ++ Source.factoryName) ++ "."]

/-- The constants, an empty line before them if there are any. -/
def constantsCode (f : FieldsInterface) : List Code :=
  (if f.constants.isEmpty then [] else [.blank])
    ++ f.constants.entries.map fun (constant, field) =>
      .line ("String " ++ constant ++ " = " ++ Source.literal field ++ ";")

/-- The static methods. -/
def answersCode (f : FieldsInterface) : List Code :=
  (match f.entityClass with
    | none => []
    | some entity => answerCode "Class<?>" "entityClass" (Source.classLiteral entity))
    ++ answerCode "Class<?>" "stubClass" (Source.classLiteral f.stubClass)
    ++ answerCode "String" "firstField" (Source.literal f.firstField)
    ++ answerCode "boolean" "isContainingIdentField"
      (if f.hasIdentityField then "true" else "false")
    ++ answerCode "java.util.List<String>" "primitiveFields"
      (listOf (f.primitiveFields.keys.map Name.constant))
    ++ answerCode "java.util.List<String>" "identitylessFields" (listOf f.identitylessFields.keys)
    ++ if f.nestedFirstFields.isEmpty then []
      else answerCode "java.util.Map<String, String>" "nestedFirstFields"
        (mapOf f.nestedFirstFields.entries)

/-- The interface with its documentation; `nested` are the interfaces inside it. -/
def interfaceCode (f : FieldsInterface) (nested : List Code) : List Code :=
  Source.docComment f.docLines ++ Source.generatedMark f.date
    ++ [.block ("public interface " ++ f.interfaceName ++ " extends " ++ f.fieldsPackage ++ "."
          ++ Source.providerName)
        (f.constantsCode ++ f.answersCode ++ nested)]

end FieldsInterface

namespace FieldsTree

mutual

/-- A field interface with those nested in it. -/
def code : FieldsTree → List Code
  | .node f nested => f.interfaceCode (nestedCode nested)

/-- Nested field interfaces, an empty line before each. -/
def nestedCode : List FieldsTree → List Code
  | [] => []
  | t :: ts => .blank :: (code t ++ nestedCode ts)

end

theorem nestedCode_eq_flatMap (ts : List FieldsTree) :
    nestedCode ts = ts.flatMap fun t => .blank :: code t := by
  induction ts with
  | nil => rw [nestedCode, List.flatMap_nil]
  | cons t ts ih => rw [nestedCode, ih, List.flatMap_cons, List.cons_append]

/-- The source file of a field interface. -/
def source (t : FieldsTree) : String :=
  Source.packageDeclaration t.value.package ++ Code.renderAll 0 (code t)

end FieldsTree

end EntityGen
