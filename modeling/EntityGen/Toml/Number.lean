import EntityGen.Json.Parser
import EntityGen.Text.Basic

/-! # Numbers of project files

Digits may be grouped by underscores. Integers are decimal without leading zeros, or hexadecimal,
octal or binary behind `0x`, `0o` and `0b`; floats have a fraction, an exponent or both.

A word may be an integer by its form and yet have no value, such as `0x` or `1_a`. It is an error
only where its value is read. -/

namespace EntityGen.Toml

/-! ## Digits -/

/-- The value of a digit in a base up to 16. -/
def digitValue? (base : Nat) (c : Char) : Option Nat :=
  (Json.hexValue? c).filter (· < base)

/-- The digits of a run in which single underscores stand between digits only. -/
def digitRun? (base : Nat) (cs : List Char) : Option (List Nat) := do
  let groups ← (Text.split '_' cs).mapM fun group => group.mapM (digitValue? base)
  if groups.any List.isEmpty then none else return groups.flatten

/-- The value of digits. -/
def valueOf (base : Nat) (digits : List Nat) : Nat :=
  digits.foldl (fun n d => n * base + d) 0

/-- Whether there is a zero in front of other digits. -/
def hasLeadingZero : List Nat → Bool
  | 0 :: _ :: _ => true
  | _ => false

/-! ## Floats -/

/-- A float as written: `digits` without their point, times a power of ten; or one of the values
without digits. -/
inductive FloatLiteral where
  | finite (digits : Nat) (exponent : Int)
  | special
  deriving DecidableEq, Repr

namespace FloatLiteral

/-- The least number that is too great for a double: half a step above the greatest of them. -/
def overflowAt : Nat := Nat.pow 2 1024 - Nat.pow 2 970

/-- Whether the value is too great for a double. No number of as many places as `overflowAt` has
fewer than 309 digits, and none of more than 309 is below it. -/
def overflows : FloatLiteral → Bool
  | special => false
  | finite digits exponent =>
    if digits = 0 then false
    else
      let places := (Nat.repr digits).length + exponent
      if places > 309 then true
      else if places < 309 then false
      else match exponent with
        | .ofNat e => overflowAt ≤ digits * Nat.pow 10 e
        | .negSucc e => overflowAt * Nat.pow 10 (e + 1) ≤ digits

end FloatLiteral

/-! ## Numbers -/

/-- A number without its sign. -/
inductive Magnitude where
  /-- An integer; `none` if its digits have no value. -/
  | integer (value : Option Nat)
  | float (literal : FloatLiteral)
  deriving DecidableEq, Repr

/-- The exponent behind its letter. -/
def exponent? (cs : List Char) : Option Int :=
  let value (cs : List Char) := (digitRun? 10 cs).map (valueOf 10)
  match cs with
  | '-' :: cs => (value cs).map fun n => -(n : Int)
  | '+' :: cs => (value cs).map Int.ofNat
  | cs => (value cs).map Int.ofNat

def isExponentMark (c : Char) : Bool := c = 'e' || c = 'E'

/-- A float. Its whole part has no zero in front of other digits, and digits follow a point. -/
def float? (cs : List Char) : Option FloatLiteral := do
  let mantissa := cs.takeWhile (!isExponentMark ·)
  let whole ← digitRun? 10 (mantissa.takeWhile (· ≠ '.'))
  if hasLeadingZero whole then none
  let fraction ← match mantissa.dropWhile (· ≠ '.') with
    | [] => some []
    | _ :: part => digitRun? 10 part
  let exponent ← match cs.dropWhile (!isExponentMark ·) with
    | [] => some 0
    | _ :: part => exponent? part
  return .finite (valueOf 10 (whole ++ fraction)) (exponent - fraction.length)

/-- Whether a character is a digit of some base. -/
def isAnyDigit (c : Char) : Bool := (digitValue? 16 c).isSome

/-- Whether groups that stand behind an underscore have digits of some base next to each
underscore. -/
def areGrouped : List (List Char) → Bool
  | [] => true
  | [last] => last.head?.any isAnyDigit
  | group :: groups =>
    group.head?.any isAnyDigit && group.getLast?.any isAnyDigit && areGrouped groups

/-- A decimal integer. It is told from other words by the digits before its first underscore and by
those next to underscores; anything else between them, a space apart, leaves it without a value. -/
def decimal? (cs : List Char) : Option (Option Nat) :=
  match Text.split '_' cs with
  | [] => none
  | group :: groups =>
    let startsWithZero := group.head? = some '0' && cs.length ≠ 1
    if group.isEmpty || !group.all Char.isDigit || startsWithZero || cs.contains ' '
        || !areGrouped groups then none
    else some ((digitRun? 10 cs).map (valueOf 10))

/-- The base that a mark behind a zero stands for. -/
def baseOf? : Char → Option Nat
  | 'x' => some 16
  | 'o' => some 8
  | 'b' => some 2
  | _ => none

/-- An integer in another base; without digits it has no value. -/
def based? : List Char → Option (Option Nat)
  | ['0', mark] => (baseOf? mark).map fun _ => none
  | '0' :: mark :: cs => do
    let base ← baseOf? mark
    return some (valueOf base (← digitRun? base cs))
  | _ => none

/-- A number without sign or mark of a base. -/
def unmarked? (cs : List Char) : Option Magnitude :=
  if cs.any fun c => c = '.' || isExponentMark c then (float? cs).map .float
  else (decimal? cs).map .integer

/-- A number behind a sign. -/
def signed? (cs : List Char) : Option Magnitude :=
  if cs = "inf".toList || cs = "nan".toList then some (.float .special) else unmarked? cs

/-- A number without a sign. -/
def unsigned? (cs : List Char) : Option Magnitude :=
  if cs = "inf".toList || cs = "nan".toList then some (.float .special)
  else match based? cs with
    | some value => some (.integer value)
    | none => unmarked? cs

end EntityGen.Toml
