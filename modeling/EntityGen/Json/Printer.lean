import EntityGen.Json.Basic

/-! # Printing documents

Two layouts: `render` on one line without blanks, and `pretty` with one item or member a line,
indented by two blanks. Text is written as it is, save for quotes, backslashes and controls. -/

namespace EntityGen.Json

/-! ## Strings -/

/-- The four hexadecimal digits of a control character's code. -/
def controlDigits (c : Char) : List Char :=
  let digits := Nat.toDigits 16 c.toNat
  List.replicate (4 - digits.length) '0' ++ digits

/-- One character inside a string literal. -/
def escapeChar (c : Char) : List Char :=
  if c == '"' then ['\\', '"']
  else if c == '\\' then ['\\', '\\']
  else if c == '\n' then ['\\', 'n']
  else if c == '\r' then ['\\', 'r']
  else if c == '\t' then ['\\', 't']
  else if c == '\x08' then ['\\', 'b']
  else if c == '\x0c' then ['\\', 'f']
  else if c.toNat < 0x20 then ['\\', 'u'] ++ controlDigits c
  else [c]

/-- The literal of a text. -/
def literal (s : String) : String :=
  "\"" ++ String.ofList (s.toList.flatMap escapeChar) ++ "\""

/-- The literal of a string value; one that stands for no text has an empty literal. -/
def literalOf (content : Option String) : String := literal (content.getD "")

/-! ## On one line -/

mutual

/-- The value on one line. -/
def render : Json → String
  | null => "null"
  | bool true => "true"
  | bool false => "false"
  | nat n => Nat.repr n
  | decimal l => l
  | text content => literalOf content
  | array [] => "[]"
  | array (item :: items) => "[" ++ item.render ++ renderItems items
  | object [] => "\x7b\x7d"
  | object ((key, value) :: members) =>
    "\x7b" ++ literalOf key ++ ":" ++ value.render ++ renderMembers members

/-- The items after the first, each behind a comma, and the closing bracket. -/
def renderItems : List Json → String
  | [] => "]"
  | item :: items => "," ++ item.render ++ renderItems items

/-- The members after the first, each behind a comma, and the closing brace. -/
def renderMembers : List (Option String × Json) → String
  | [] => "\x7d"
  | (key, value) :: members =>
    "," ++ literalOf key ++ ":" ++ value.render ++ renderMembers members

end

/-! ## On many lines -/

/-- A new line at a nesting depth. -/
def lineAt (depth : Nat) : String :=
  "\n" ++ String.ofList (List.replicate (2 * depth) ' ')

mutual

/-- The value with one item or member a line, its closing bracket at `depth`. -/
def prettyAt (depth : Nat) : Json → String
  | array [] => "[]"
  | array (item :: items) =>
    "[" ++ lineAt (depth + 1) ++ item.prettyAt (depth + 1) ++ prettyItems depth items
  | object [] => "\x7b\x7d"
  | object ((key, value) :: members) =>
    "\x7b" ++ lineAt (depth + 1) ++ literalOf key ++ ": " ++ value.prettyAt (depth + 1)
      ++ prettyMembers depth members
  | other => other.render

/-- The items after the first, a line each, and the closing bracket. -/
def prettyItems (depth : Nat) : List Json → String
  | [] => lineAt depth ++ "]"
  | item :: items =>
    "," ++ lineAt (depth + 1) ++ item.prettyAt (depth + 1) ++ prettyItems depth items

/-- The members after the first, a line each, and the closing brace. -/
def prettyMembers (depth : Nat) : List (Option String × Json) → String
  | [] => lineAt depth ++ "\x7d"
  | (key, value) :: members =>
    "," ++ lineAt (depth + 1) ++ literalOf key ++ ": " ++ value.prettyAt (depth + 1)
      ++ prettyMembers depth members

end

/-- The value with one item or member a line. -/
def pretty (value : Json) : String := value.prettyAt 0

end EntityGen.Json
