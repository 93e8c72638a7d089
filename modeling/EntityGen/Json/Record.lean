import EntityGen.Json.Parser
import EntityGen.NameMap

/-! # Records in documents

How typed data is read from a value. A record is an object with declared members, in any order and
among others that are passed over, or an array of the declared members' values in order. Readers of
nested data are given the number of levels they may descend; a document may be read 127 deep. -/

namespace EntityGen.Json

/-! ## Plain values -/

def text? : Json → Option String
  | text content => content
  | _ => none

def bool? : Json → Option Bool
  | bool value => some value
  | _ => none

/-- A natural number below 2^64. -/
def count? : Json → Option Nat
  | nat value => if value < UInt64.size then some value else none
  | _ => none

/-- A value that may be `null`. -/
def nullable (read : Json → Option α) : Json → Option (Option α)
  | null => some none
  | value => (read value).map some

/-- The items of an array, each read one level deeper. -/
def listOf (read : Nat → Json → Option α) : Nat → Json → Option (List α)
  | levels + 1, array items => items.mapM (read levels)
  | _, _ => none

/-- The texts of an array. -/
def textsOf : Nat → Json → Option (List String) :=
  listOf fun _ => text?

/-- One of the tags of an enumeration, as a text or as the only member of an object, with `null`. -/
def tagOf (ofTag? : String → Option α) : Nat → Json → Option α
  | _, text (some tag) => ofTag? tag
  | _ + 1, object [(some tag, null)] => ofTag? tag
  | _, _ => none

/-! ## Records -/

/-- The declared members that a record has. -/
abbrev Record := List (String × Json)

/-- The members of an object if each has a name that stands for a text. -/
def named? (members : List (Option String × Json)) : Option Record :=
  members.mapM fun (key, value) => key.map (·, value)

/-- A value as a record: no declared member may come twice, and an array may not have more items
than there are declared members. -/
def record? (declared : List String) : Json → Option Record
  | object members => do
    let known := (← named? members).filter fun m => declared.contains m.1
    if (known.map (·.1)).Nodup then some known else none
  | array items =>
    if items.length ≤ declared.length then some (declared.zip items) else none
  | _ => none

/-- Reads a record one level deeper. -/
def recordOf (declared : List String) (read : Nat → Record → Option α) : Nat → Json → Option α
  | levels + 1, value => (record? declared value).bind (read levels)
  | 0, _ => none

/-- A member that has to be there. -/
def Record.required (r : Record) (name : String) (read : Json → Option α) : Option α :=
  (r.lookup name).bind read

/-- A member that has a default. -/
def Record.withDefault (r : Record) (name : String) (default : α) (read : Json → Option α) :
    Option α :=
  match r.lookup name with
  | none => some default
  | some value => read value

/-- A member that may be missing or `null`. -/
def Record.optional (r : Record) (name : String) (read : Json → Option α) : Option (Option α) :=
  r.withDefault name none (nullable read)

/-! ## Documents -/

/-- How deep a document may be read. -/
def levelLimit : Nat := 127

/-- The data of a document. -/
def decode? (read : Nat → Json → Option α) (document : String) : Option α :=
  (parse? document).bind (read levelLimit)

end EntityGen.Json
