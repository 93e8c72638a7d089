import EntityGen.Project
import EntityGen.Text.Basic

/-! # Arguments of the command line

The first argument names a command; options follow. A long option has its value behind `=` or in the
next argument, a short one also right behind its letter, and letters of options without values may
stand together. Arguments are read from left to right until one is wrong or asks for help. -/

namespace EntityGen

/-! ## Options -/

/-- An option of a command. -/
structure OptionSpec where
  /-- The name, which stands behind two hyphens. -/
  name : String
  /-- The letter, which stands behind one hyphen. -/
  letter : Option Char := none
  takesValue : Bool := true
  /-- Whether the value has to be a number. -/
  isNumber : Bool := false
  deriving DecidableEq, Repr

/-- Why reading arguments ends early. -/
inductive Interruption where
  /-- Help is asked for, about a command or, without one, about all. -/
  | help (command : Option String)
  | version
  /-- An argument is wrong. -/
  | misuse
  deriving DecidableEq, Repr

/-- The values of the options read so far, by name; those without value have an empty one. -/
abbrev OptionValues := List (String × String)

/-- The number of a text: digits, perhaps behind a plus sign, below 2^64. -/
def numberOf? (s : String) : Option Nat :=
  let digits := match s.toList with
    | '+' :: cs => cs
    | cs => cs
  if digits.isEmpty || !digits.all Char.isDigit then none
  else
    let n := digits.foldl (fun n d => n * 10 + (d.toNat - '0'.toNat)) 0
    if n < UInt64.size then some n else none

namespace OptionSpec

/-- The values with one more; an option may be given once. -/
def add (o : OptionSpec) (values : OptionValues) (value : String) :
    Except Interruption OptionValues :=
  if (values.lookup o.name).isSome then .error .misuse
  else if o.isNumber && (numberOf? value).isNone then .error .misuse
  else .ok (values ++ [(o.name, value)])

end OptionSpec

/-- What reading one argument leaves: an option that waits for its value in the next argument. -/
abbrev Pending := Option OptionSpec

/-- The letters behind one hyphen. -/
def readLetters (command : String) (options : List OptionSpec) (values : OptionValues) :
    List Char → Except Interruption (OptionValues × Pending)
  | [] => .ok (values, none)
  | c :: cs =>
    if c = 'h' then .error (.help (some command))
    else match options.find? (·.letter = some c) with
      | none => .error .misuse
      | some o =>
        if o.takesValue then
          match cs with
          | [] => .ok (values, some o)
          | '=' :: value => (o.add values (String.ofList value)).map (·, none)
          | value => (o.add values (String.ofList value)).map (·, none)
        else do readLetters command options (← o.add values "") cs

/-- The name and perhaps value behind two hyphens. -/
def readLong (command : String) (options : List OptionSpec) (values : OptionValues)
    (cs : List Char) : Except Interruption (OptionValues × Pending) :=
  let name := String.ofList (cs.takeWhile (· ≠ '='))
  let value : Option String := match cs.dropWhile (· ≠ '=') with
    | [] => none
    | _ :: value => some (String.ofList value)
  if name = "help" then .error (if value.isSome then .misuse else .help (some command))
  else match options.find? (·.name = name) with
    | none => .error .misuse
    | some o =>
      match o.takesValue, value with
      | true, some value => (o.add values value).map (·, none)
      | true, none => .ok (values, some o)
      | false, some _ => .error .misuse
      | false, none => (o.add values "").map (·, none)

/-- The options among the arguments of a command. -/
def readOptions (command : String) (options : List OptionSpec) (values : OptionValues)
    (pending : Pending) : List String → Except Interruption OptionValues
  | [] => if pending.isSome then .error .misuse else .ok values
  | arg :: args =>
    match pending, arg.toList with
    -- an option without its value
    | some _, '-' :: _ :: _ => .error .misuse
    | some o, _ => do readOptions command options (← o.add values arg) none args
    | none, '-' :: '-' :: c :: cs => do
      let (values, pending) ← readLong command options values (c :: cs)
      readOptions command options values pending args
    -- nothing follows the options of a command
    | none, ['-', '-'] => if args.isEmpty then .ok values else .error .misuse
    | none, '-' :: c :: cs => do
      let (values, pending) ← readLetters command options values (c :: cs)
      readOptions command options values pending args
    | none, _ => .error .misuse

/-! ## Commands -/

/-- What the command line asks for. -/
inductive Command where
  | generate (options : RunOptions)
  /-- Checks a project and perhaps its model, and shows the fields of a class if one is given. -/
  | check (project model className : Option String)
  deriving DecidableEq, Repr

namespace Command

def generateOptions : List OptionSpec := [
  { name := "model", letter := some 'm' },
  { name := "output", letter := some 'o' },
  { name := "config", letter := some 'c' },
  { name := "identity-name" },
  { name := "identity-type" },
  { name := "threads", letter := some 't', isNumber := true },
  { name := "verbose", letter := some 'v', takesValue := false }]

def checkOptions : List OptionSpec := [
  { name := "config", letter := some 'c' },
  { name := "model", letter := some 'm' },
  { name := "class" }]

/-- The command of its options. -/
def ofValues (values : OptionValues) : Command :=
  generate {
    model := values.lookup "model"
    output := values.lookup "output"
    project := values.lookup "config"
    identityName := values.lookup "identity-name"
    identityType := values.lookup "identity-type"
    workers := (values.lookup "threads").bind numberOf?
    isVerbose := (values.lookup "verbose").isSome }

/-- Help about a command, if there is such a command. -/
def helpAbout : List String → Interruption
  | [] => .help none
  | [name] =>
    if name = "generate" || name = "check" || name = "help" then .help (some name) else .misuse
  | _ => .misuse

/-- The command of a list of arguments. -/
def ofArguments : List String → Except Interruption Command
  | "generate" :: args => do
    return ofValues (← readOptions "generate" generateOptions [] none args)
  | "check" :: args => do
    let values ← readOptions "check" checkOptions [] none args
    return check (values.lookup "config") (values.lookup "model") (values.lookup "class")
  | "help" :: args => .error (helpAbout args)
  | arg :: _ =>
    match arg.toList with
    | '-' :: 'h' :: _ => .error (.help none)
    | '-' :: 'V' :: _ => .error .version
    | _ =>
      if arg = "--help" then .error (.help none)
      else if arg = "--version" then .error .version
      else .error .misuse
  | [] => .error .misuse

end Command

end EntityGen
