import EntityGen.Json.Basic
import EntityGen.Toml.Number

/-! # Values of project files

The values of TOML. A table remembers where it comes from, since that decides how it may be extended
later in the file: keys and headers add to the tables on their way, but nothing is defined twice. -/

namespace EntityGen

namespace Toml

/-- How a table came about. -/
inductive Origin where
  /-- By a header, or as the whole document. -/
  | defined
  /-- On the way to a table with a header. -/
  | implied
  /-- On the way of a key with dots. -/
  | dotted
  /-- As a value. -/
  | inline
  deriving DecidableEq, Repr

end Toml

/-- A TOML value. -/
inductive Toml where
  | text (content : String)
  /-- An integer; `none` if it has its form only. -/
  | integer (value : Option Int)
  | float (value : Toml.FloatLiteral)
  | bool (value : Bool)
  | date
  | array (items : List Toml)
  /-- An array that grows by a table with each header. -/
  | tables (items : List Toml)
  | table (origin : Toml.Origin) (members : List (String × Toml))

namespace Toml

instance : Inhabited Toml := ⟨table .defined []⟩

/-! ## Building tables -/

/-- The members with `value` as the value of `key`. -/
def replaceMember (key : String) (value : Toml) (members : List (String × Toml)) :
    List (String × Toml) :=
  members.map fun m => if m.1 = key then (key, value) else m

/-- Changes a table by its origin and members. -/
abbrev Change := Origin → List (String × Toml) → Option Toml

/-- Makes a change in the table that a path leads to. Missing tables on the way are added. The last
table of an array stands for the array. A key with dots does not pass tables that have a header, and
nothing passes inline tables. -/
def changeAt (dotted : Bool) (change : Change) : (path : List String) → Change
  | [], origin, members => change origin members
  | key :: path, origin, members =>
    match members.lookup key with
    | none => do
      let inner ← changeAt dotted change path (if dotted then .dotted else .implied) []
      return table origin (members ++ [(key, inner)])
    | some (table .inline _) => none
    | some (table innerOrigin inner) =>
      if dotted && innerOrigin = .defined then none
      else do
        let inner ← changeAt dotted change path innerOrigin inner
        return table origin (replaceMember key inner members)
    | some (tables items) =>
      match items.getLast? with
      | some (table innerOrigin inner) => do
        let inner ← changeAt dotted change path innerOrigin inner
        return table origin (replaceMember key (tables (items.dropLast ++ [inner])) members)
      | _ => none
    | some _ => none

/-- Adds a member, unless the table was made by keys with dots and this one has none, or the other
way round, or the member is there already. -/
def addMember (dotted : Bool) (key : String) (value : Toml) : Change := fun origin members =>
  if (origin = .dotted : Bool) ≠ dotted || (members.lookup key).isSome then none
  else some (table origin (members ++ [(key, value)]))

/-- Defines a key of a table. -/
def define (path : List String) (key : String) (value : Toml) : Change :=
  changeAt (!path.isEmpty) (addMember (!path.isEmpty) key value) path

/-- Defines a table, which until now may only have been implied. -/
def openTable (key : String) : Change := fun origin members =>
  match members.lookup key with
  | none => some (table origin (members ++ [(key, table .defined [])]))
  | some (table .implied inner) =>
    some (table origin (replaceMember key (table .defined inner) members))
  | some _ => none

/-- Adds a table to an array of tables. -/
def openItem (key : String) : Change := fun origin members =>
  match members.lookup key with
  | none => some (table origin (members ++ [(key, tables [table .defined []])]))
  | some (tables items) =>
    some (table origin (replaceMember key (tables (items ++ [table .defined []])) members))
  | some _ => none

/-- Makes a change in a table. -/
def apply (change : Change) : Toml → Option Toml
  | table origin members => change origin members
  | _ => none

/-! ## Reading -/

mutual

/-- Whether all numbers in a value have values, and these are in range. -/
def isInRange : Toml → Bool
  | integer value => value.any fun n => -2 ^ 127 ≤ n && n < 2 ^ 128
  | float value => !value.overflows
  | array items | tables items => isInRangeAll items
  | table _ members => isInRangeMembers members
  | _ => true

def isInRangeAll : List Toml → Bool
  | [] => true
  | item :: items => item.isInRange && isInRangeAll items

def isInRangeMembers : List (String × Toml) → Bool
  | [] => true
  | (_, value) :: members => value.isInRange && isInRangeMembers members

end

mutual

/-- The document value to read typed data from. Of floats, negative numbers and integers without
value nothing but that they are no counts is kept, and of dates that they are records without known
members. -/
def toJson : Toml → Json
  | text content => .ofText content
  | integer (some (.ofNat n)) => .nat n
  | integer (some (.negSucc n)) => .decimal ("-" ++ Nat.repr (n + 1))
  | integer none | float _ => .decimal "0.0"
  | bool value => .bool value
  | date => .object []
  | array items | tables items => .array (toJsonAll items)
  | table _ members => .object (toJsonMembers members)

def toJsonAll : List Toml → List Json
  | [] => []
  | item :: items => item.toJson :: toJsonAll items

def toJsonMembers : List (String × Toml) → List (Option String × Json)
  | [] => []
  | (key, value) :: members => (some key, value.toJson) :: toJsonMembers members

end

/-- The value of a member of a table. -/
def member? (key : String) : Toml → Option Toml
  | table _ members => members.lookup key
  | _ => none

end Toml

end EntityGen
