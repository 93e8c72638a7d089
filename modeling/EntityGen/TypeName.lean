import EntityGen.Name
import EntityGen.Text.Word

/-! # Types as the stubs spell them

A return type is text such as `java.util.List<a.B>` or `a.C[]`. Here are the sets of types the
generator treats specially and the two ways of looking into a type's text. -/

namespace EntityGen.TypeName

open Text

/-- The root of all classes. -/
def object : String := "java.lang.Object"

/-- The type of text. -/
def string : String := "java.lang.String"

/-- Types stored as plain columns. -/
def primitives : List String := [
  "java.lang.String",
  "int", "java.lang.Integer",
  "long", "java.lang.Long",
  "double", "java.lang.Double",
  "boolean", "java.lang.Boolean",
  "byte", "java.lang.Byte",
  "float", "java.lang.Float",
  "short", "java.lang.Short",
  "char", "java.lang.Character",
  "java.math.BigInteger",
  "java.math.BigDecimal"]

/-- Types that carry no data of the service; fields of these types are never generated. -/
def reserved : List String := ["org.apache.xmlbeans.XmlObject"]

/-- Generic types that hold many elements. -/
def collections : List String := ["java.util.List", "java.util.Set"]

/-- What an array type ends with. -/
def arrayMark : String := "[]"

def isPrimitive (type : String) : Bool := primitives.contains type

def isReserved (type : String) : Bool := reserved.contains type

/-- Whether the text before the first `<` names a collection. -/
def isCollection (type : String) : Bool :=
  collections.contains (trim (String.ofList (type.toList.takeWhile (· ≠ '<'))))

/-- The element type of an array type. -/
def arrayElement? (type : String) : Option String :=
  (stripEnd? arrayMark.toList type.toList).map String.ofList

/-! ## The argument of a generic type -/

/-- A name at the start of a text, if a `>` closes it. -/
def closedName? (text : List Char) : Option (List Char) :=
  let isNameChar (c : Char) := isWord c || c == '.'
  match text.takeWhile isNameChar, text.dropWhile isNameChar with
  | c :: name, '>' :: _ => some (c :: name)
  | _, _ => none

/-- The first name that stands alone between `<` and `>`. -/
def firstArgument? : List Char → Option (List Char)
  | [] => none
  | c :: text =>
    if c = '<' then (closedName? text).or (firstArgument? text) else firstArgument? text

/-- The element type that a collection type names. -/
def argument? (type : String) : Option String :=
  (firstArgument? type.toList).map String.ofList

/-- The element type that a collection type names, or the root of all classes. -/
def argument (type : String) : String :=
  (argument? type).getD object

end EntityGen.TypeName
