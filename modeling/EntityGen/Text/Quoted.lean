import EntityGen.Text.PrintableTable

/-! # Quoted text for messages

A text in double quotes in which everything that cannot be seen is spelled out: the named escapes,
and the code point in braces for the rest. Single quotes stand as they are. -/

namespace EntityGen.Text

/-- Whether a character shows as itself in quoted text. -/
def isVisible (c : Char) : Bool :=
  let n := c.toNat
  let within (ranges : List (Nat × Nat)) := ranges.any fun (first, last) => first ≤ n && n ≤ last
  if n < 0x80 then 0x20 ≤ n && n < 0x7F
  else !within extenderRanges && !within invisibleRanges

/-- The lower-case hexadecimal digits of a code point, without leading zeros. -/
def hexDigits (n : Nat) : List Char :=
  Nat.toDigits 16 n

/-- One character inside the quotes. -/
def quoteChar (c : Char) : List Char :=
  if c == '\x00' then ['\\', '0']
  else if c == '\t' then ['\\', 't']
  else if c == '\r' then ['\\', 'r']
  else if c == '\n' then ['\\', 'n']
  else if c == '\\' || c == '"' then ['\\', c]
  else if isVisible c then [c]
  else ['\\', 'u', '\x7b'] ++ hexDigits c.toNat ++ ['\x7d']

/-- A text in quotes. -/
def quoted (s : String) : String :=
  String.ofList ('"' :: s.toList.flatMap quoteChar ++ ['"'])

end EntityGen.Text
