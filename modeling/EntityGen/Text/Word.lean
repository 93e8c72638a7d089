import EntityGen.Text.WordTable

/-! # Word characters

The characters that names in source text are made of. -/

namespace EntityGen.Text

/-- Letters, marks, decimal digits, connecting punctuation and the join controls. -/
def isWord (c : Char) : Bool :=
  if c.toNat < 0x80 then c.isAlphanum || c == '_'
  else wordRanges.any fun (first, last) => first ≤ c.toNat && c.toNat ≤ last

end EntityGen.Text
