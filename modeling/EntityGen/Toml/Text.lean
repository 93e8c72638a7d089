import EntityGen.Json.Parser

/-! # Strings of project files

Basic strings know escapes, literal strings none; both also come in a form of many lines. -/

namespace EntityGen.Toml

/-- Whether a character may stand in strings and comments as it is. -/
def isPlain (c : Char) : Bool := c = '\t' || (0x20 ≤ c.toNat && c.toNat ≠ 0x7F)

/-! ## Escapes -/

/-- The character of an escape of one letter. -/
def escaped? : Char → Option Char
  | 'b' => some '\x08'
  | 't' => some '\t'
  | 'n' => some '\n'
  | 'f' => some '\x0c'
  | 'r' => some '\r'
  | 'e' => some '\x1b'
  | '"' => some '"'
  | '\\' => some '\\'
  | _ => none

/-- The character of a code point in hexadecimal digits. -/
def charOf? (digits : List Char) : Option Char := do
  let values ← digits.mapM Json.hexValue?
  let n := values.foldl (fun n d => n * 16 + d) 0
  if n.isValidChar then some (Char.ofNat n) else none

/-- How many digits follow the letter of an escape by code point. -/
def digitsAfter? : Char → Option Nat
  | 'x' => some 2
  | 'u' => some 4
  | 'U' => some 8
  | _ => none

/-- What the scanner of a string is in the middle of. -/
inductive ScanState where
  | plain
  /-- Behind a backslash. -/
  | escape
  /-- Inside an escape by code point; digits read, last first, and how many are missing. -/
  | digits (read : List Char) (missing : Nat)
  /-- Behind a backslash and blanks, before the end of the line. -/
  | lineEnd
  /-- Behind the end of a line that ends with a backslash. -/
  | margin

/-! ## Strings of one line -/

/-- The basic string up to its closing quote, and what follows. -/
def scanBasic (state : ScanState) (read : List Char) : List Char → Option (String × List Char)
  | [] => none
  | c :: cs =>
    match state with
    | .escape =>
      match digitsAfter? c with
      | some n => scanBasic (.digits [] n) read cs
      | none => (escaped? c).bind fun e => scanBasic .plain (e :: read) cs
    | .digits seen (missing + 1) =>
      if missing = 0 then
        (charOf? (c :: seen).reverse).bind fun e => scanBasic .plain (e :: read) cs
      else scanBasic (.digits (c :: seen) missing) read cs
    | .plain =>
      if c = '"' then some (String.ofList read.reverse, cs)
      else if c = '\\' then scanBasic .escape read cs
      else if isPlain c then scanBasic .plain (c :: read) cs
      else none
    | _ => none

/-- The literal string up to its closing quote, and what follows. -/
def scanLiteral (cs : List Char) : Option (String × List Char) :=
  let content := cs.takeWhile (· ≠ '\'')
  match cs.dropWhile (· ≠ '\'') with
  | [] => none
  | _ :: rest => if content.all isPlain then some (String.ofList content, rest) else none

/-! ## Strings of many lines -/

/-- What the closing quotes of a string leave of a text that starts with three of them: up to two
more belong to the string. -/
def closing? (quote : Char) : List Char → Option (List Char × List Char)
  | a :: b :: c :: rest =>
    if a = quote && b = quote && c = quote then
      match rest with
      | d :: e :: after =>
        if d = quote && e = quote then some ([quote, quote], after)
        else if d = quote then some ([quote], e :: after)
        else some ([], d :: e :: after)
      | [d] => if d = quote then some ([quote], []) else some ([], [d])
      | [] => some ([], [])
    else none
  | _ => none

/-- Whether a line ends at the start of a text whose first character is `c`. -/
def isLineBreak (c : Char) (rest : List Char) : Bool :=
  c = '\n' || (c = '\r' && rest.head? = some '\n')

/-- The basic string of many lines up to its closing quotes, and what follows. A backslash at the
end of a line swallows the blanks and line ends behind it. -/
def scanBasicBlock (state : ScanState) (read : List Char) :
    List Char → Option (String × List Char)
  | [] => none
  | c :: cs =>
    match state with
    | .escape =>
      match digitsAfter? c with
      | some n => scanBasicBlock (.digits [] n) read cs
      | none =>
        if isLineBreak c cs then scanBasicBlock .margin read cs
        else if c = ' ' || c = '\t' then scanBasicBlock .lineEnd read cs
        else (escaped? c).bind fun e => scanBasicBlock .plain (e :: read) cs
    | .digits seen (missing + 1) =>
      if missing = 0 then
        (charOf? (c :: seen).reverse).bind fun e => scanBasicBlock .plain (e :: read) cs
      else scanBasicBlock (.digits (c :: seen) missing) read cs
    | .digits _ 0 => none
    | .lineEnd =>
      if isLineBreak c cs then scanBasicBlock .margin read cs
      else if c = ' ' || c = '\t' then scanBasicBlock .lineEnd read cs
      else none
    | .margin =>
      if isLineBreak c cs || c = ' ' || c = '\t' then scanBasicBlock .margin read cs
      else blockChar read c cs
    | .plain => blockChar read c cs
where
  /-- A character outside escapes. -/
  blockChar (read : List Char) (c : Char) (cs : List Char) : Option (String × List Char) :=
    match closing? '"' (c :: cs) with
    | some (quotes, rest) => some (String.ofList (read.reverse ++ quotes), rest)
    | none =>
      if c = '\\' then scanBasicBlock .escape read cs
      else if isPlain c || isLineBreak c cs then scanBasicBlock .plain (c :: read) cs
      else none

/-- The literal string of many lines up to its closing quotes, and what follows. -/
def scanLiteralBlock (read : List Char) : List Char → Option (String × List Char)
  | [] => none
  | c :: cs =>
    match closing? '\'' (c :: cs) with
    | some (quotes, rest) => some (String.ofList (read.reverse ++ quotes), rest)
    | none =>
      if isPlain c || isLineBreak c cs then scanLiteralBlock (c :: read) cs
      else none

/-- The text without a line end at its start. -/
def dropLineEnd : List Char → List Char
  | '\n' :: cs => cs
  | '\r' :: '\n' :: cs => cs
  | cs => cs

/-- The string that a text starts with, and what follows. -/
def string? : List Char → Option (String × List Char)
  | '"' :: '"' :: '"' :: cs => scanBasicBlock .plain [] (dropLineEnd cs)
  | '"' :: cs => scanBasic .plain [] cs
  | '\'' :: '\'' :: '\'' :: cs => scanLiteralBlock [] (dropLineEnd cs)
  | '\'' :: cs => scanLiteral cs
  | _ => none

end EntityGen.Toml
