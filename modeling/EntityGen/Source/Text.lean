import EntityGen.Name
import EntityGen.Source.Code

/-! # Parts of generated sources

What all generated files have in common: string literals, the package declaration, documentation
comments and the mark of generated types. Types are written with their qualified names, nested ones
behind a dot. -/

namespace EntityGen.Source

/-- One character inside a string literal. -/
def escapeChar (c : Char) : List Char :=
  if c = '\\' ∨ c = '"' then ['\\', c] else [c]

/-- The text as it stands inside a string literal. -/
def escape (s : String) : String :=
  String.ofList (s.toList.flatMap escapeChar)

/-- The string literal of a text. -/
def literal (s : String) : String := "\"" ++ escape s ++ "\""

/-- The declaration of a package and an empty line; nothing for the package without a name. -/
def packageDeclaration (package : String) : String :=
  if package.isEmpty then "" else "package " ++ package ++ ";\n\n"

/-- A documentation comment; nothing if it has no lines. -/
def docComment (lines : List String) : List Code :=
  if lines.isEmpty then []
  else [.line "/**"] ++ lines.map (fun l => .line (" * " ++ l)) ++ [.line " */"]

/-- The name that generated types are marked with. -/
def generatorName : String := "soapjpa"

/-- The mark of a generated type, if there is a date to write. -/
def generatedMark : (date : Option String) → List Code
  | none => []
  | some date => [.line ("@javax.annotation.Generated(value = " ++ literal generatorName
      ++ ", date = " ++ literal date ++ ")")]

/-- The expression for a class. -/
def classLiteral (name : String) : String := Name.dotted name ++ ".class"

/-- A text in braces behind a tag, as documentation comments have it. -/
def docTag (tag text : String) : String := "\x7b@" ++ tag ++ " " ++ text ++ "\x7d"

/-- The simple name of the interface that all field interfaces extend. -/
def providerName : String := "IFieldProvider"

/-- The simple name of the factory. -/
def factoryName : String := "JPAEntitiesFactory"

end EntityGen.Source
