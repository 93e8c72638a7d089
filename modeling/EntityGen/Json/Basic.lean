/-! # Document values

The value of a JSON document. Numbers keep what readers need of them: a plain natural number is its
value, any other number its literal. A string literal may spell half of a surrogate pair; it then
stands for no text (`none`), may be passed over, and cannot be read. -/

namespace EntityGen

/-- A JSON value; the members of an object are in the order of the document. -/
inductive Json where
  | null
  | bool (value : Bool)
  | nat (value : Nat)
  | decimal (literal : String)
  | text (content : Option String)
  | array (items : List Json)
  | object (members : List (Option String × Json))

namespace Json

instance : Inhabited Json := ⟨null⟩

/-- The string value of a text. -/
def ofText (s : String) : Json := text (some s)

/-- The value of a text that may be missing. -/
def ofOption : Option String → Json
  | none => null
  | some s => ofText s

/-- The array of a list of texts. -/
def ofTexts (texts : List String) : Json := array (texts.map ofText)

/-- The object with these members. -/
def ofMembers (members : List (String × Json)) : Json :=
  object (members.map fun m => (some m.1, m.2))

/-- The value of the first member of this name. -/
def member? (name : String) : Json → Option Json
  | object members => members.lookup (some name)
  | _ => none

/-! ## Nesting -/

mutual

/-- How many arrays and objects lie around the innermost value, this one counted. -/
def depth : Json → Nat
  | array items => depthOfItems items + 1
  | object members => depthOfMembers members + 1
  | _ => 0

/-- The greatest depth among the items. -/
def depthOfItems : List Json → Nat
  | [] => 0
  | item :: items => max item.depth (depthOfItems items)

/-- The greatest depth among the members. -/
def depthOfMembers : List (Option String × Json) → Nat
  | [] => 0
  | (_, value) :: members => max value.depth (depthOfMembers members)

end

end Json
end EntityGen
