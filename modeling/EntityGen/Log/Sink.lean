import EntityGen.Log.Level
import EntityGen.Text.Quoted

/-! # Captured log records

A sink holds the records that pass its level until they are drained, and hands each of them to the
callback that is set at that time. Events come with fields, of which one gives the message. -/

namespace EntityGen

/-- One captured record. -/
structure LogRecord where
  level : LogLevel
  /-- Where the record comes from. -/
  target : String
  message : String
  deriving DecidableEq, Repr

/-- A callback, by its number. -/
abbrev Callback := Nat

/-- A sink; at first it takes warnings and errors and calls nothing. -/
structure LogSink where
  /-- The byte of the level from which on records are taken. -/
  levelCode : UInt8 := LogLevel.warn.code
  callback : Option Callback := none
  /-- The records held, in order. -/
  records : List LogRecord := []
  /-- The calls made so far, in order. -/
  calls : List (Callback × LogRecord) := []
  deriving DecidableEq, Repr

namespace LogSink

/-- The level from which on records are taken. -/
def level (s : LogSink) : LogLevel := .ofNumber s.levelCode.toNat

/-- Whether records of a level are taken. -/
def isEnabled (s : LogSink) (level : LogLevel) : Bool :=
  level ≠ .off && s.level.number ≤ level.number

def setLevel (s : LogSink) (level : LogLevel) : LogSink := { s with levelCode := level.code }

def setCallback (s : LogSink) (callback : Option Callback) : LogSink := { s with callback }

/-- The sink after a record was offered. -/
def log (s : LogSink) (record : LogRecord) : LogSink :=
  if s.isEnabled record.level then
    { s with
      records := s.records ++ [record]
      calls := s.calls ++ s.callback.toList.map (·, record) }
  else s

/-- The number of records held of a level. -/
def count (s : LogSink) (level : LogLevel) : Nat := (s.records.filter (·.level = level)).length

/-- The records held, and the sink without them. -/
def drain (s : LogSink) : List LogRecord × LogSink := (s.records, { s with records := [] })

/-! Where there is one callback only, it is on or off. -/

def setForwarding (s : LogSink) (forwards : Bool) : LogSink :=
  s.setCallback (if forwards then some 0 else none)

def forwards (s : LogSink) : Bool := s.callback.isSome

/-- The records that were handed to a callback, in order. -/
def forwarded (s : LogSink) : List LogRecord := s.calls.map (·.2)

@[simp] theorem level_setLevel (s : LogSink) (level : LogLevel) :
    (s.setLevel level).level = level := level.ofNumber_code

end LogSink

/-! ## Events -/

/-- The value of an event's field. -/
inductive FieldValue where
  /-- A text shown as it is. -/
  | text (content : String)
  /-- A text shown in quotes. -/
  | quoted (content : String)
  | number (value : Nat)
  deriving DecidableEq, Repr

def FieldValue.show : FieldValue → String
  | text content => content
  | quoted content => Text.quoted content
  | number value => Nat.repr value

/-- Something that happened, with named values. -/
structure LogEvent where
  level : LogLevel
  target : String
  fields : List (String × FieldValue)
  deriving DecidableEq, Repr

namespace LogEvent

/-- The message found so far, after one more field: fields named for it replace it, others only give
one where there was none. -/
def visit (found : Option String) (field : String × FieldValue) : Option String :=
  if field.1 = "message" || found.isNone then some field.2.show else found

/-- The message; empty for an event without fields. -/
def message (e : LogEvent) : String := (e.fields.foldl visit none).getD ""

/-- What an event says, as a record. -/
def record (e : LogEvent) : LogRecord := ⟨e.level, e.target, e.message⟩

/-- The field that gives the message: the last one named for it, or else the first of all. -/
def messageField? (e : LogEvent) : Option (String × FieldValue) :=
  ((e.fields.filter (·.1 = "message")).getLast?).or e.fields.head?

theorem foldl_visit_some (fields : List (String × FieldValue)) (found : String) :
    fields.foldl visit (some found) =
      some (((fields.filter (·.1 = "message")).getLast?.map (·.2.show)).getD found) := by
  induction fields generalizing found with
  | nil => rfl
  | cons field fields ih =>
    by_cases hname : field.1 = "message"
    · simp [visit, hname, ih, List.getLast?_cons]
    · simp [visit, hname, ih]

theorem message_eq (e : LogEvent) : e.message = (e.messageField?.map (·.2.show)).getD "" := by
  rw [message, messageField?]
  cases e.fields with
  | nil => rfl
  | cons field fields =>
    have hfirst : visit none field = some field.2.show := by simp [visit]
    rw [List.foldl_cons, hfirst, foldl_visit_some]
    by_cases hname : field.1 = "message"
    · simp [hname, List.getLast?_cons]
    · simp [hname]

end LogEvent

/-- The sink after an event. The message of an event that the sink does not take is never put
together. -/
def LogSink.emit (s : LogSink) (e : LogEvent) : LogSink :=
  if s.isEnabled e.level then s.log e.record else s

/-- That the sink is asked twice makes no difference. -/
theorem LogSink.emit_eq_log (s : LogSink) (e : LogEvent) : s.emit e = s.log e.record := by
  unfold emit log
  split
  · rfl
  · next h => exact (if_neg h).symm

end EntityGen
