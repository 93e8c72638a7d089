import EntityGen.Text.Basic

/-! # Log levels

The levels in order, each with its number and its name; a name is read in any case. -/

namespace EntityGen

inductive LogLevel where
  | trace
  | debug
  | info
  | warn
  | error
  | off
  deriving DecidableEq, Repr, Inhabited

namespace LogLevel

/-- The level's place in the order. -/
def number : LogLevel → Nat
  | trace => 0
  | debug => 1
  | info => 2
  | warn => 3
  | error => 4
  | off => 5

/-- The level of a number; nothing is logged from 5 on. -/
def ofNumber : Nat → LogLevel
  | 0 => trace
  | 1 => debug
  | 2 => info
  | 3 => warn
  | 4 => error
  | _ => off

def name : LogLevel → String
  | trace => "TRACE"
  | debug => "DEBUG"
  | info => "INFO"
  | warn => "WARN"
  | error => "ERROR"
  | off => "OFF"

/-- The byte that a level is stored as. -/
def code (level : LogLevel) : UInt8 := UInt8.ofNat level.number

/-- The level of a name as configurations write it. -/
def ofName? (name : String) : Option LogLevel :=
  match Text.lowerAscii name with
  | "trace" => some trace
  | "debug" => some debug
  | "info" => some info
  | "warn" | "warning" => some warn
  | "error" => some error
  | "off" => some off
  | _ => none

/-- A stored level is read back. -/
theorem ofNumber_code (level : LogLevel) : ofNumber level.code.toNat = level := by
  cases level <;> rfl

end LogLevel
end EntityGen
