import EntityGen.TypeName

/-! # Casts of the identity field

Every entity's identity has the one configured type. A stub whose identity field is text is
converted where a conversion exists. -/

namespace EntityGen

/-- The conversion of a textual identity to the configured type. -/
inductive IdentityCast where
  | toLong
  | toInteger
  | toFloat
  deriving DecidableEq, Repr

namespace IdentityCast

def all : List IdentityCast := [toLong, toInteger, toFloat]

/-- The type that is converted. -/
def source (_ : IdentityCast) : String := TypeName.string

/-- The type that comes out. -/
def target : IdentityCast → String
  | toLong => "java.lang.Long"
  | toInteger => "java.lang.Integer"
  | toFloat => "java.lang.Float"

/-- The name a cast goes by in documents. -/
def tag : IdentityCast → String
  | toLong => "STRING_TO_LONG"
  | toInteger => "STRING_TO_INT"
  | toFloat => "STRING_TO_FLOAT"

/-- The cast of a name in a document. -/
def ofTag? (tag : String) : Option IdentityCast :=
  all.find? (·.tag == tag)

/-- The cast between two types. -/
def between? (source target : String) : Option IdentityCast :=
  all.find? fun cast => cast.source == source && cast.target == target

/-- Whether some cast has this type as its target. -/
def isTarget (type : String) : Bool :=
  all.any (·.target == type)

/-- The source text that converts `value`. -/
def expression (cast : IdentityCast) (value : String) : String :=
  match cast with
  | toLong => "Long.valueOf(" ++ value ++ ")"
  | toInteger => "Integer.valueOf(" ++ value ++ ")"
  | toFloat => "Float.valueOf(" ++ value ++ ")"

theorem ofTag?_tag (cast : IdentityCast) : ofTag? cast.tag = some cast := by
  cases cast <;> decide

/-! ## Types that need no cast -/

/-- Primitive types beside the classes that hold them. -/
def boxed : List (String × String) := [
  ("int", "java.lang.Integer"),
  ("long", "java.lang.Long"),
  ("float", "java.lang.Float"),
  ("double", "java.lang.Double"),
  ("short", "java.lang.Short"),
  ("byte", "java.lang.Byte"),
  ("boolean", "java.lang.Boolean"),
  ("char", "java.lang.Character")]

/-- Whether two names mean one identity type: they differ in case at most, or one is a primitive
type and the other the class that holds it. -/
def sameType (a b : String) : Bool :=
  Text.sameIgnoringCase a b || boxed.contains (a, b) || boxed.contains (b, a)

end IdentityCast
end EntityGen
