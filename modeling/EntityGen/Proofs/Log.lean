import EntityGen.Log.Sink
import Mathlib.Data.List.DropRight

/-! # Histories of a log sink

What a new sink does in any sequence of calls is a matter of the calls alone: which level is in
force (`levelAfter`), which callback (`callbackAfter`), which records pass (`taken`) and which of
them are held still (`held`).

* `LogSink.Follows.run`: the sink is what its history says after every call.
* `records_accounted`: no record that passes is lost or taken twice, each is handed to the callback
  in force once, and a count is about the records that passed since the last drain. -/

namespace EntityGen

/-! ## Calls and answers -/

/-- One call of a sink. -/
inductive SinkCall where
  | setLevel (level : LogLevel)
  | setCallback (callback : Option Callback)
  | log (record : LogRecord)
  | emit (event : LogEvent)
  | count (level : LogLevel)
  | drain
  deriving DecidableEq, Repr

/-- What a call answers. -/
inductive SinkAnswer where
  | nothing
  | counted (number : Nat)
  | drained (records : List LogRecord)
  deriving DecidableEq, Repr

/-- The records of an answer. -/
def SinkAnswer.records : SinkAnswer → List LogRecord
  | drained records => records
  | nothing | counted _ => []

namespace LogSink

/-- What a call answers, and the sink after it. -/
def respond (s : LogSink) : SinkCall → SinkAnswer × LogSink
  | .setLevel level => (.nothing, s.setLevel level)
  | .setCallback callback => (.nothing, s.setCallback callback)
  | .log record => (.nothing, s.log record)
  | .emit event => (.nothing, s.emit event)
  | .count level => (.counted (s.count level), s)
  | .drain => (.drained s.drain.1, s.drain.2)

/-- What several calls answer, one after the other, and the sink after them. -/
def run (s : LogSink) : List SinkCall → List SinkAnswer × LogSink
  | [] => ([], s)
  | call :: calls =>
    (((s.respond call).1 :: ((s.respond call).2.run calls).1), ((s.respond call).2.run calls).2)

theorem run_append (s : LogSink) (first second : List SinkCall) :
    s.run (first ++ second) =
      ((s.run first).1 ++ ((s.run first).2.run second).1, ((s.run first).2.run second).2) := by
  induction first generalizing s with
  | nil => rfl
  | cons call first ih => simp only [List.cons_append, run, ih]

theorem length_run (s : LogSink) (calls : List SinkCall) :
    (s.run calls).1.length = calls.length := by
  induction calls generalizing s with
  | nil => rfl
  | cons call calls ih => simp [run, ih]

end LogSink

/-! ## What a history says -/

namespace SinkCall

/-- The record that a call offers. -/
def record? : SinkCall → Option LogRecord
  | log record => some record
  | emit event => some event.record
  | setLevel _ | setCallback _ | count _ | drain => none

/-- The level that a call sets. -/
def level? : SinkCall → Option LogLevel
  | setLevel level => some level
  | setCallback _ | log _ | emit _ | count _ | drain => none

/-- The callback that a call sets; `some none` takes the callback away. -/
def callback? : SinkCall → Option (Option Callback)
  | setCallback callback => some callback
  | setLevel _ | log _ | emit _ | count _ | drain => none

/-- The level of a new sink after some calls: the last one that was set. -/
def levelAfter (calls : List SinkCall) : LogLevel := (calls.filterMap level?).getLast?.getD .warn

/-- The callback of a new sink after some calls: the last one that was set. -/
def callbackAfter (calls : List SinkCall) : Option Callback :=
  (calls.filterMap callback?).getLast?.getD none

/-- The record that a call offers, if it has a level and that is not below the sink's. -/
def passed (before : List SinkCall) (call : SinkCall) : Option LogRecord :=
  call.record?.filter fun record =>
    record.level ≠ .off && (levelAfter before).number ≤ record.level.number

/-- The records that pass in `calls`, which come after the calls `before`. -/
def taken (before : List SinkCall) : (calls : List SinkCall) → List LogRecord
  | [] => []
  | call :: calls => (passed before call).toList ++ taken (before ++ [call]) calls

/-- The callbacks made in `calls`: one for each record that passes while a callback is set. -/
def callsMade (before : List SinkCall) : (calls : List SinkCall) → List (Callback × LogRecord)
  | [] => []
  | call :: calls =>
    (passed before call).toList.flatMap (fun record =>
        (callbackAfter before).toList.map (·, record))
      ++ callsMade (before ++ [call]) calls

/-- The records that passed since the last drain. -/
def held (calls : List SinkCall) : List LogRecord :=
  taken (calls.rdropWhile (· ≠ drain)) (calls.rtakeWhile (· ≠ drain))

variable {before : List SinkCall} {call : SinkCall}

theorem levelAfter_concat :
    levelAfter (before ++ [call]) = call.level?.getD (levelAfter before) := by
  rw [levelAfter, List.filterMap_append]
  cases hlevel : call.level? with
  | none => simp [hlevel, levelAfter]
  | some level => simp [hlevel]

theorem callbackAfter_concat :
    callbackAfter (before ++ [call]) = call.callback?.getD (callbackAfter before) := by
  rw [callbackAfter, List.filterMap_append]
  cases hcallback : call.callback? with
  | none => simp [hcallback, callbackAfter]
  | some callback => simp [hcallback]

theorem taken_append (before first second : List SinkCall) :
    taken before (first ++ second) = taken before first ++ taken (before ++ first) second := by
  induction first generalizing before with
  | nil => simp [taken]
  | cons call first ih => simp [taken, ih]

theorem callsMade_append (before first second : List SinkCall) :
    callsMade before (first ++ second) =
      callsMade before first ++ callsMade (before ++ first) second := by
  induction first generalizing before with
  | nil => simp [callsMade]
  | cons call first ih => simp [callsMade, ih]

theorem held_concat_drain : held (before ++ [drain]) = [] := by
  rw [held, List.rtakeWhile_concat_neg _ _ _ (by simp)]
  rfl

theorem held_concat (h : call ≠ drain) :
    held (before ++ [call]) = held before ++ (passed before call).toList := by
  rw [held, List.rdropWhile_concat_pos _ _ _ (by simpa using h),
    List.rtakeWhile_concat_pos _ _ _ (by simpa using h), taken_append,
    List.rdropWhile_append_rtakeWhile, held]
  simp [taken]

end SinkCall

/-! ## The sink follows its history -/

namespace LogSink

open SinkCall

/-- The sink is what the history of its calls says. -/
structure Follows (s : LogSink) (calls : List SinkCall) : Prop where
  level : s.level = levelAfter calls
  callback : s.callback = callbackAfter calls
  records : s.records = held calls
  calls : s.calls = callsMade [] calls

theorem follows_new : Follows {} [] := ⟨rfl, rfl, rfl, rfl⟩

section

variable {s : LogSink} {before : List SinkCall} (h : s.Follows before)
include h

/-- A call that offers no record. -/
theorem Follows.silent {call : SinkCall} {s' : LogSink} (hrecord : call.record? = none)
    (hdrain : call ≠ .drain) (hlevel : s'.level = call.level?.getD s.level)
    (hcallback : s'.callback = call.callback?.getD s.callback)
    (hrecords : s'.records = s.records) (hcalls : s'.calls = s.calls) :
    s'.Follows (before ++ [call]) := by
  have hpassed : passed before call = none := by rw [passed, hrecord, Option.filter_none]
  constructor
  · rw [hlevel, h.level, levelAfter_concat]
  · rw [hcallback, h.callback, callbackAfter_concat]
  · rw [hrecords, h.records, held_concat hdrain, hpassed]
    simp
  · rw [hcalls, h.calls, callsMade_append, List.nil_append]
    simp [callsMade, hpassed]

/-- A call that offers a record. -/
theorem Follows.log {call : SinkCall} {record : LogRecord} (hrecord : call.record? = some record)
    (hlevel : call.level? = none) (hcallback : call.callback? = none) :
    (s.log record).Follows (before ++ [call]) := by
  have hdrain : call ≠ .drain := by
    rintro rfl
    cases hrecord
  have hpassed :
      (passed before call).toList = if s.isEnabled record.level then [record] else [] := by
    rw [passed, hrecord, isEnabled, h.level, Option.filter_some]
    split <;> rfl
  have hkept : (s.log record).level = s.level ∧ (s.log record).callback = s.callback := by
    unfold LogSink.log
    split <;> exact ⟨rfl, rfl⟩
  constructor
  · rw [hkept.1, h.level, levelAfter_concat, hlevel, Option.getD_none]
  · rw [hkept.2, h.callback, callbackAfter_concat, hcallback, Option.getD_none]
  · rw [held_concat hdrain, hpassed, ← h.records, LogSink.log]
    split <;> simp
  · rw [callsMade_append, List.nil_append, ← h.calls, callsMade, callsMade, hpassed, ← h.callback,
      LogSink.log]
    split <;> simp

/-- One call. -/
theorem Follows.respond (call : SinkCall) : (s.respond call).2.Follows (before ++ [call]) := by
  cases call with
  | setLevel level => exact h.silent rfl (by simp) (level_setLevel s level) rfl rfl rfl
  | setCallback callback => exact h.silent rfl (by simp) rfl rfl rfl rfl
  | log record => exact h.log rfl rfl rfl
  | emit event =>
    rw [LogSink.respond, emit_eq_log]
    exact h.log rfl rfl rfl
  | count level => exact h.silent rfl (by simp) rfl rfl rfl rfl
  | drain =>
    refine ⟨?_, ?_, held_concat_drain.symm, ?_⟩
    · rw [levelAfter_concat]
      exact h.level
    · rw [callbackAfter_concat]
      exact h.callback
    · rw [callsMade_append, List.nil_append, ← h.calls]
      simp [LogSink.respond, LogSink.drain, callsMade, passed, record?]

/-- Any calls. -/
theorem Follows.run (calls : List SinkCall) : (s.run calls).2.Follows (before ++ calls) := by
  induction calls generalizing s before with
  | nil => simpa [LogSink.run] using h
  | cons call calls ih =>
    rw [List.append_cons, LogSink.run]
    exact ih (h.respond call)

/-- What one call drains and leaves is what was held with what passed. -/
theorem Follows.records_respond (call : SinkCall) :
    (s.respond call).1.records ++ (s.respond call).2.records =
      s.records ++ (passed before call).toList := by
  by_cases hdrain : call = .drain
  · subst hdrain
    simp [LogSink.respond, SinkAnswer.records, LogSink.drain, passed, record?]
  · have hnone : (s.respond call).1.records = [] := by
      cases call with
      | drain => exact absurd rfl hdrain
      | setLevel _ | setCallback _ | log _ | emit _ | count _ => rfl
    rw [hnone, (h.respond call).records, held_concat hdrain, h.records, List.nil_append]

/-- What several calls drain and leave is what was held with what passed. -/
theorem Follows.records_run (calls : List SinkCall) :
    (s.run calls).1.flatMap SinkAnswer.records ++ (s.run calls).2.records =
      s.records ++ taken before calls := by
  induction calls generalizing s before with
  | nil => simp [LogSink.run, taken]
  | cons call calls ih =>
    simp only [LogSink.run, List.flatMap_cons, List.append_assoc, ih (h.respond call), taken]
    rw [← List.append_assoc, h.records_respond call, List.append_assoc]

end

end LogSink

open SinkCall in
/-- What a new sink drained and holds is what passed, in order; a count at any moment is of the
records held then, and the callbacks got each record that passed while they were set. An event
offers a record of its level and its target, and of the message in its fields. -/
theorem records_accounted (calls : List SinkCall) :
    (LogSink.run {} calls).1.flatMap SinkAnswer.records ++ (LogSink.run {} calls).2.records =
        taken [] calls ∧
      (LogSink.run {} calls).2.records = held calls ∧
      (LogSink.run {} calls).2.calls = callsMade [] calls ∧
      (∀ (level : LogLevel) (after : List SinkCall),
        (LogSink.run {} (calls ++ .count level :: after)).1[calls.length]? =
          some (.counted ((held calls).countP (·.level = level)))) ∧
      ∀ event : LogEvent, (SinkCall.emit event).record? =
        some ⟨event.level, event.target, (event.messageField?.map (·.2.show)).getD ""⟩ := by
  have hfollows := LogSink.follows_new.run calls
  refine ⟨LogSink.follows_new.records_run calls, hfollows.records, hfollows.calls,
    fun level after => ?_, fun event => ?_⟩
  · rw [LogSink.run_append, List.getElem?_append_right (LogSink.length_run _ _).le,
      LogSink.length_run, Nat.sub_self, LogSink.run, List.getElem?_cons_zero, LogSink.respond,
      LogSink.count, hfollows.records, List.countP_eq_length_filter]
    rfl
  · rw [record?, LogEvent.record, LogEvent.message_eq]

end EntityGen
