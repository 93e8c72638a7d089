import EntityGen.Toml.Basic
import EntityGen.Toml.Date
import EntityGen.Toml.Text

/-! # Reading project files

A reader of TOML text. Lines define keys, in the table of the last header; headers open tables or
add tables to arrays. Arrays and inline tables may go over several lines and may end with a comma.
They nest 80 deep at most, and a key has 80 parts at most. -/

namespace EntityGen.Toml

/-! ## Blanks and comments -/

def isSpace (c : Char) : Bool := c = ' ' || c = '\t'

/-- The text without the blanks at its start. -/
def skipSpace (cs : List Char) : List Char := cs.dropWhile isSpace

/-- The text without blanks, comments and line ends at its start. -/
def skipFiller (inComment : Bool) : List Char → Option (List Char)
  | [] => some []
  | '\n' :: cs => skipFiller false cs
  | '\r' :: '\n' :: cs => skipFiller false cs
  | c :: cs =>
    if inComment then if isPlain c then skipFiller true cs else none
    else if isSpace c then skipFiller false cs
    else if c = '#' then skipFiller true cs
    else some (c :: cs)

/-- What follows the end of the line, if there is nothing before it but blanks and a comment. -/
def endLine? (inComment : Bool) : List Char → Option (List Char)
  | [] => some []
  | '\n' :: cs => some cs
  | '\r' :: '\n' :: cs => some cs
  | c :: cs =>
    if inComment then if isPlain c then endLine? true cs else none
    else if isSpace c then endLine? false cs
    else if c = '#' then endLine? true cs
    else none

/-! ## Keys -/

/-- Whether a character may stand in a key without quotes. -/
def isBare (c : Char) : Bool := c.isAlphanum || c = '_' || c = '-'

/-- One part of a key, and what follows. -/
def keyPart? : List Char → Option (String × List Char)
  | '"' :: cs => scanBasic .plain [] cs
  | '\'' :: cs => scanLiteral cs
  | cs =>
    match cs.takeWhile isBare with
    | [] => none
    | part => some (String.ofList part, cs.dropWhile isBare)

/-- The parts of a key, the last one apart, and what follows the blanks behind it. The key may have
as many parts as `parts` says. -/
def keyWithin? (parts : Nat) (cs : List Char) : Option ((List String × String) × List Char) :=
  match parts with
  | 0 => none
  | parts + 1 => do
    let (part, rest) ← keyPart? (skipSpace cs)
    match skipSpace rest with
    | '.' :: rest =>
      let ((path, last), rest) ← keyWithin? parts rest
      return ((part :: path, last), rest)
    | rest => return (([], part), rest)

/-- The greatest number of parts of a key. -/
def keyLimit : Nat := 80

/-- The parts of a key, the last one apart, and what follows the blanks behind it. -/
def key? (cs : List Char) : Option ((List String × String) × List Char) := keyWithin? keyLimit cs

/-! ## Values without brackets -/

/-- Whether a character ends a value without quotes. Quotes do not. -/
def isDelimiter (c : Char) : Bool :=
  isSpace c || "\n\r,=[]\x7b\x7d#".toList.contains c

/-- The value of a number whose sign is given as a factor. -/
def ofMagnitude (sign : Int) : Magnitude → Toml
  | .integer value => integer (value.map fun n => sign * n)
  | .float literal => float literal

/-- A number. -/
def number? : List Char → Option Toml
  | '+' :: cs => (signed? cs).map (ofMagnitude 1)
  | '-' :: cs => (signed? cs).map (ofMagnitude (-1))
  | cs => (unsigned? cs).map (ofMagnitude 1)

/-- The value of a word. -/
def ofWord? (cs : List Char) : Option Toml :=
  if cs = "true".toList then some (bool true)
  else if cs = "false".toList then some (bool false)
  else match number? cs with
    | some value => some value
    | none => if isDate cs then some date else none

/-- Whether a word goes on behind blanks, such as a day with its time. A quote there begins a
string. -/
def goesOn (cs : List Char) : Bool :=
  (skipSpace cs).head?.any fun c => !isDelimiter c && c ≠ '"' && c ≠ '\''

/-- A word and what follows. Blanks in the middle are part of the word. -/
def scanWord : List Char → List Char × List Char
  | [] => ([], [])
  | c :: cs =>
    if isDelimiter c && !(isSpace c && goesOn cs) then ([], c :: cs)
    else
      let (word, rest) := scanWord cs
      (c :: word, rest)

/-! ## Values -/

/-- How deep arrays and inline tables may nest. -/
def nestingLimit : Nat := 80

/-- The key of an inline table's member, and what follows up to its value. Lines may end before and
behind the equals sign. -/
def memberKey? (cs : List Char) : Option ((List String × String) × List Char) := do
  let (key, rest) ← key? cs
  match ← skipFiller false rest with
  | '=' :: rest => return (key, ← skipFiller false rest)
  | _ => none

mutual

/-- A value, and what follows. `levels` is how many more brackets may be open at once. -/
def scanValue (fuel levels : Nat) (cs : List Char) : Option (Toml × List Char) :=
  match fuel with
  | 0 => none
  | fuel + 1 =>
    match cs with
    | [] => none
    | '"' :: _ | '\'' :: _ => (string? cs).map fun (content, rest) => (text content, rest)
    | '[' :: rest =>
      match levels with
      | 0 => none
      | levels + 1 => (skipFiller false rest).bind (scanItems fuel levels [])
    | '\x7b' :: rest =>
      match levels with
      | 0 => none
      | levels + 1 => (skipFiller false rest).bind (scanMembers fuel levels (table .inline []))
    | cs =>
      let (word, rest) := scanWord cs
      (ofWord? word).map (·, rest)

/-- The items of an array from the next one on, or its end; `read` holds those before it, last
first. -/
def scanItems (fuel levels : Nat) (read : List Toml) (cs : List Char) :
    Option (Toml × List Char) :=
  match fuel with
  | 0 => none
  | fuel + 1 =>
    match cs with
    | ']' :: rest => some (array read.reverse, rest)
    | cs =>
      match scanValue fuel levels cs with
      | none => none
      | some (item, rest) =>
        match skipFiller false rest with
        | some (',' :: rest) => (skipFiller false rest).bind (scanItems fuel levels (item :: read))
        | some (']' :: rest) => some (array (item :: read).reverse, rest)
        | _ => none

/-- The members of an inline table from the next one on, or its end; `read` holds those before
it. -/
def scanMembers (fuel levels : Nat) (read : Toml) (cs : List Char) : Option (Toml × List Char) :=
  match fuel with
  | 0 => none
  | fuel + 1 =>
    match cs with
    | '\x7d' :: rest => some (read, rest)
    | cs =>
      match memberKey? cs with
      | none => none
      | some ((path, key), rest) =>
        match scanValue fuel levels rest with
        | none => none
        | some (value, rest) =>
          match read.apply (define path key value) with
          | none => none
          | some read =>
            match skipFiller false rest with
            | some (',' :: rest) => (skipFiller false rest).bind (scanMembers fuel levels read)
            | some ('\x7d' :: rest) => some (read, rest)
            | _ => none

end

/-! ## Documents -/

/-- What one header or definition does: the document after it, the table that keys are defined in
from then on, and what follows the line. -/
abbrev Line := Toml × List String × List Char

/-- A header, its opening bracket already passed. -/
def header? (document : Toml) (cs : List Char) : Option Line :=
  let (isItem, cs) := match cs with
    | '[' :: rest => (true, rest)
    | cs => (false, cs)
  match key? cs with
  | some ((path, key), ']' :: rest) => do
    let rest ← if isItem then (match rest with
      | ']' :: rest => some rest
      | _ => none) else some rest
    let open_ := if isItem then openItem key else openTable key
    let document ← document.apply (changeAt false open_ path)
    return (document, path ++ [key], ← endLine? false rest)
  | _ => none

/-- A definition in the table at `at_`. -/
def definition? (document : Toml) (at_ : List String) (cs : List Char) : Option Line :=
  match key? cs with
  | some ((path, key), '=' :: rest) => do
    let (value, rest) ← scanValue (2 * cs.length + 2) nestingLimit (skipSpace rest)
    let document ← document.apply (changeAt false (define path key value) at_)
    return (document, at_, ← endLine? false rest)
  | _ => none

/-- The document with all lines of a text. -/
def scanLines (fuel : Nat) (document : Toml) (at_ : List String) (cs : List Char) : Option Toml :=
  match fuel with
  | 0 => none
  | fuel + 1 =>
    match skipFiller false cs with
    | none => none
    | some [] => some document
    | some ('[' :: rest) =>
      (header? document rest).bind fun (document, at_, rest) => scanLines fuel document at_ rest
    | some cs =>
      (definition? document at_ cs).bind fun (document, at_, rest) =>
        scanLines fuel document at_ rest

/-- The text without the mark of its encoding at its start. -/
def skipMark : List Char → List Char
  | '\ufeff' :: cs => cs
  | cs => cs

/-- The table of a document. Each line takes at least one character. -/
def parse? (document : String) : Option Toml :=
  let cs := skipMark document.toList
  scanLines (cs.length + 1) (table .defined []) [] cs

end EntityGen.Toml
