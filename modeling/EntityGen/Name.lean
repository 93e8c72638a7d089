import EntityGen.Text.Basic
import EntityGen.Text.Case

/-! # Naming rules

How names of stub classes and accessors become names in generated code. A qualified name separates
its parts by `.`; a binary name separates a nested class from its owner by `$`. Both separators
count when a name is taken apart.

| name            | rule                | result             |
|-----------------|---------------------|--------------------|
| `getSecondName` | `fieldOfAccessor`   | `secondName`       |
| `regex_like`    | `recapitalize`      | `regexLike`        |
| `secondName`    | `constant`          | `SECOND_NAME`      |
| `word`          | `capitalize`        | `Word`             |
| `a.b.C$D`       | `simple`, `parent`  | `D`, `a.b.C`       |
| `a.b.C$D`       | `suffixed` by `JPA` | `a.b.CJPA.DJPA`    | -/

namespace EntityGen.Name

open Text

/-! ## Accessors and fields -/

/-- How the name of an accessor starts. -/
def accessorStart : String := "get"

/-- Whether a method of this name and number of parameters is an accessor: it takes nothing, and its
name goes on after the start of every accessor's name. -/
def isAccessor (name : String) (parameters : Nat) : Bool :=
  parameters == 0 && match strip? accessorStart.toList name.toList with
    | some (_ :: _) => true
    | _ => false

/-- The field an accessor reads: its name without the start, in lower case at the front. -/
def fieldOfAccessor (accessor : String) : String :=
  String.ofList <| lowerFirst <|
    (strip? accessorStart.toList accessor.toList).getD accessor.toList

/-- The name with its first character in upper case. -/
def capitalize (name : String) : String :=
  String.ofList (upperFirst name.toList)

/-- The accessor a class has if it has a plainly named one for `field`. -/
def accessorOfField (field : String) : String :=
  accessorStart ++ capitalize field

/-! ## Underscores and constants -/

/-- The parts between underscores, each but the first capitalized, in one word. -/
def recapitalize (name : String) : String :=
  match split '_' name.toList with
  | [] => ""
  | part :: parts => String.ofList (part ++ parts.flatMap upperFirst)

/-- One character of a constant's name: capitals start a new word. -/
def constantChar (c : Char) : List Char :=
  if isUpper c then '_' :: upper c else upper c

/-- The name in capitals, an underscore before each letter that was a capital already, the first
letter apart. -/
def constant (name : String) : String :=
  match name.toList with
  | [] => ""
  | c :: rest => String.ofList (upper c ++ rest.flatMap constantChar)

/-! ## Paths -/

/-- Whether a character ends a part of a qualified or binary name. -/
def isSeparator (c : Char) : Bool := c == '.' || c == '$'

/-- The last part of a name. -/
def simple (name : String) : String :=
  String.ofList (name.toList.reverse.takeWhile (!isSeparator ·)).reverse

/-- All before the last part; empty for a name of one part. -/
def parent (name : String) : String :=
  String.ofList ((name.toList.reverse.dropWhile (!isSeparator ·)).drop 1).reverse

/-- Whether `name` is `owner` or lies below it. -/
def isWithin (name owner : String) : Bool :=
  match strip? owner.toList name.toList with
  | some [] => true
  | some (c :: _) => isSeparator c
  | none => false

/-- A binary name with dots for all separators. -/
def dotted (name : String) : String :=
  String.ofList (replace '$' ['.'] name.toList)

/-- The generated type's name: each class of a binary name has `suffix` after it. -/
def suffixed (binaryName suffix : String) : String :=
  String.ofList (replace '$' (suffix.toList ++ ['.']) binaryName.toList) ++ suffix

/-- The path with `new` in place of each part equal to `old`. -/
def replacePart (path old new : String) : String :=
  String.ofList <| join '.' <| (split '.' path.toList).map fun part =>
    if part = old.toList then new.toList else part

end EntityGen.Name
