import EntityGen.Text.CaseTable

/-! # Letter case

`upper` and `lower` give the full case mappings of a character: a few letters become several.
Neither looks at the characters around it. -/

namespace EntityGen.Text

/-- The partner of code point `n` in a table of runs. -/
def partner? (table : List Shift) (n : Nat) : Option Char :=
  (table.find? (·.covers n)).map fun s => Char.ofNat (Int.toNat ((n : Int) + s.offset))

/-- Whether a character is upper case; title-case letters are not. -/
def isUpper (c : Char) : Bool :=
  if c.toNat < 0x80 then c.isUpper
  else upperStrides.any fun (first, last, step) =>
    first ≤ c.toNat && c.toNat ≤ last && (c.toNat - first) % step == 0

/-- The upper case of a character, as many characters as it takes. -/
def upper (c : Char) : List Char :=
  if c.toNat < 0x80 then [c.toUpper]
  else match upperExpansions.lookup c.toNat with
    | some letters => letters.map Char.ofNat
    | none => [(partner? upperShifts c.toNat).getD c]

/-- The lower case of a character, as many characters as it takes. -/
def lower (c : Char) : List Char :=
  if c.toNat < 0x80 then [c.toLower]
  else match lowerExpansions.lookup c.toNat with
    | some letters => letters.map Char.ofNat
    | none => [(partner? lowerShifts c.toNat).getD c]

/-- The text with its first character in upper case. -/
def upperFirst : List Char → List Char
  | [] => []
  | c :: rest => upper c ++ rest

/-- The text with its first character in lower case. -/
def lowerFirst : List Char → List Char
  | [] => []
  | c :: rest => lower c ++ rest

end EntityGen.Text
