/-! # Workers that share a list of jobs

Several workers take jobs from one list, in order, until the list is used up or a job has failed.
They take their steps in any order; each step is atomic. The results are put in order at the end,
and of several errors that of the first job in the list counts.

* `State.step`: one step of one worker.
* `State.run`: the steps of a schedule, which names the worker that takes each of them.
* `State.outcome`: what the jobs come to once all workers have stopped. -/

namespace EntityGen.Pool

variable {α ε β : Type}

/-- What a worker does next. -/
inductive Stage (α ε β : Type) where
  /-- Looks whether a job has failed. -/
  | looking
  /-- Takes the next job from the list. -/
  | claiming
  /-- Does its job. -/
  | working (job : Nat) (input : α)
  /-- Stores the result of its job. -/
  | storing (job : Nat) (result : β)
  /-- Tells the others that its job has failed. -/
  | warning (job : Nat) (error : ε)
  /-- Reports the error of its job, unless that of an earlier one was reported. -/
  | reporting (job : Nat) (error : ε)
  | stopped
  deriving DecidableEq, Repr

/-- What the workers share, and what each of them does next. -/
structure State (α ε β : Type) where
  /-- The place of the next job in the list. -/
  next : Nat := 0
  /-- A job has failed. -/
  failed : Bool := false
  /-- The results stored so far, each with the place of its job. -/
  results : List (Nat × β) := []
  /-- The reported error of the first job that failed. -/
  firstError : Option (Nat × ε) := none
  stages : List (Stage α ε β)
  deriving DecidableEq, Repr

/-- The state in which a number of workers start. -/
def start (workers : Nat) : State α ε β := { stages := List.replicate workers .looking }

/-- Of two errors the one of the earlier job. -/
def earlier (job : Nat) (error : ε) : Option (Nat × ε) → Option (Nat × ε)
  | none => some (job, error)
  | some (other, e) => if job < other then some (job, error) else some (other, e)

namespace State

/-- The state with a new stage for a worker. -/
def enter (s : State α ε β) (worker : Nat) (stage : Stage α ε β) : State α ε β :=
  { s with stages := s.stages.set worker stage }

/-- One step of a worker. A worker that has stopped does nothing. -/
def step (work : α → Except ε β) (jobs : List α) (s : State α ε β) (worker : Nat) : State α ε β :=
  match s.stages[worker]? with
  | none | some .stopped => s
  | some .looking => s.enter worker (if s.failed then .stopped else .claiming)
  | some .claiming =>
    { s with next := s.next + 1 }.enter worker <|
      match jobs[s.next]? with
      | some input => .working s.next input
      | none => .stopped
  | some (.working job input) =>
    s.enter worker <| match work input with
      | .ok result => .storing job result
      | .error e => .warning job e
  | some (.storing job result) =>
    { s with results := s.results ++ [(job, result)] }.enter worker .looking
  | some (.warning job e) => { s with failed := true }.enter worker (.reporting job e)
  | some (.reporting job e) =>
    { s with firstError := earlier job e s.firstError }.enter worker .looking

/-- The steps of a schedule. -/
def run (work : α → Except ε β) (jobs : List α) (s : State α ε β) (schedule : List Nat) :
    State α ε β :=
  schedule.foldl (step work jobs) s

/-- Whether all workers have stopped. -/
def isDone (s : State α ε β) : Bool := s.stages.all fun
  | .stopped => true
  | _ => false

/-- The results in the order of their jobs, or the error of the first job that failed. -/
def outcome (s : State α ε β) : Except ε (List β) :=
  match s.firstError with
  | some (_, e) => .error e
  | none => .ok ((s.results.mergeSort fun a b => a.1 ≤ b.1).map (·.2))

end State

end EntityGen.Pool
