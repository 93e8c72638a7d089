import EntityGen.Pool
import Mathlib.Data.List.Nodup
import Mathlib.Data.List.Range

/-! # What shared jobs come to

However the workers of a pool take their turns, the outcome is that of doing the jobs one after the
other:

* `State.Inv`: what holds of the shared state and of every worker after any schedule. A job taken
  from the list is with exactly one worker, or stored, or failed and the reported error is not of a
  later job; a worker stops only after a failure or at the end of the list.
* `Inv.step`, `inv_run`: a step keeps the invariant, hence so does a run.
* `outcome_eq_mapM`: once all workers have stopped, the outcome is `jobs.mapM work`.
* `exists_schedule_done`: a pool never gets stuck. -/

namespace EntityGen.Pool

variable {α ε β : Type}

/-! ## Jobs one after the other -/

section
variable (work : α → Except ε β) (jobs : List α)

/-- The job at place `i` has the result `r`. -/
def Yields (i : Nat) (r : β) : Prop := ∃ input, jobs[i]? = some input ∧ work input = .ok r

/-- The job at place `i` fails. -/
def Fails (i : Nat) (e : ε) : Prop := ∃ input, jobs[i]? = some input ∧ work input = .error e

end

section
variable {work : α → Except ε β} {jobs : List α}

theorem Yields.lt_length {i : Nat} {r : β} (h : Yields work jobs i r) : i < jobs.length := by
  obtain ⟨input, hi, -⟩ := h
  exact (List.getElem?_eq_some_iff.1 hi).1

theorem Yields.not_fails {i : Nat} {r : β} {e : ε} (h : Yields work jobs i r) :
    ¬ Fails work jobs i e := by
  obtain ⟨input, hi, hr⟩ := h
  rintro ⟨input', hi', he⟩
  rw [hi] at hi'
  cases hi'
  rw [hr] at he
  cases he

/-- The results of all jobs, in order, are what doing them in order comes to. -/
theorem mapM_eq_ok {rs : List β} (hlen : rs.length = jobs.length)
    (h : ∀ i r, rs[i]? = some r → Yields work jobs i r) : jobs.mapM work = .ok rs := by
  induction jobs generalizing rs with
  | nil =>
    cases rs with
    | nil => rfl
    | cons r rs => simp at hlen
  | cons job jobs ih =>
    cases rs with
    | nil => simp at hlen
    | cons r rs =>
      obtain ⟨input, hi, hr⟩ := h 0 r rfl
      cases hi
      have hrs : jobs.mapM work = .ok rs :=
        ih (by simpa using hlen) fun i r' hr' => by
          obtain ⟨input, hi, hw⟩ := h (i + 1) r' (by simpa using hr')
          exact ⟨input, by simpa using hi, hw⟩
      rw [List.mapM_cons, hr, hrs]
      rfl

/-- The first error counts when jobs are done in order. -/
theorem mapM_eq_error {i : Nat} {e : ε} (he : Fails work jobs i e)
    (h : ∀ j < i, ∃ r, Yields work jobs j r) : jobs.mapM work = .error e := by
  induction jobs generalizing i with
  | nil =>
    obtain ⟨input, hi, -⟩ := he
    simp at hi
  | cons job jobs ih =>
    cases i with
    | zero =>
      obtain ⟨input, hi, hw⟩ := he
      cases hi
      rw [List.mapM_cons, hw]
      rfl
    | succ i =>
      obtain ⟨r, input, hi, hr⟩ := h 0 (Nat.succ_pos i)
      cases hi
      have hrest : jobs.mapM work = .error e :=
        ih (i := i) he fun j hj => h (j + 1) (Nat.succ_lt_succ hj)
      rw [List.mapM_cons, hr, hrest]
      rfl

end

/-! ## Workers and their jobs -/

/-- The place of the job that a worker in this stage has taken. -/
def Stage.job? : Stage α ε β → Option Nat
  | .working job _ | .storing job _ | .warning job _ | .reporting job _ => some job
  | .looking | .claiming | .stopped => none

namespace State

/-- A worker has taken the job at a place and is not done with it. -/
def Holds (s : State α ε β) (worker job : Nat) : Prop :=
  ∃ stage, s.stages[worker]? = some stage ∧ stage.job? = some job

variable {s : State α ε β} {worker : Nat} {stage : Stage α ε β}

/-- What a worker holds is read off its stage. -/
theorem holds_iff (hs : s.stages[worker]? = some stage) {job : Nat} :
    s.Holds worker job ↔ stage.job? = some job := by
  simp [Holds, hs]

theorem getElem?_enter (hw : worker < s.stages.length) (other : Nat) :
    (s.enter worker stage).stages[other]? =
      if other = worker then some stage else s.stages[other]? := by
  by_cases h : other = worker
  · subst h
    simp [enter, hw]
  · simp [enter, h, List.getElem?_set_ne (Ne.symm h)]

theorem holds_enter (hw : worker < s.stages.length) {other job : Nat} :
    (s.enter worker stage).Holds other job ↔
      if other = worker then stage.job? = some job else s.Holds other job := by
  unfold Holds
  rw [getElem?_enter hw]
  split <;> simp

/-- A worker that looks again is done with its job. -/
theorem holds_enter_looking (hw : worker < s.stages.length) {other job : Nat} :
    (s.enter worker .looking).Holds other job ↔ other ≠ worker ∧ s.Holds other job := by
  rw [holds_enter hw]
  split <;> simp_all [Stage.job?]

end State

/-! ## The invariant -/

section
variable (work : α → Except ε β) (jobs : List α)

/-- What a stage says is so. -/
def Stage.Sound (s : State α ε β) : Stage α ε β → Prop
  | .looking | .claiming => True
  | .working job input => jobs[job]? = some input
  | .storing job r => Yields work jobs job r
  | .warning job e | .reporting job e => Fails work jobs job e
  | .stopped => s.failed = true ∨ jobs.length ≤ s.next

/-- What holds after any schedule (module doc). -/
structure State.Inv (s : State α ε β) : Prop where
  sound : ∀ (worker : Nat) stage, s.stages[worker]? = some stage → stage.Sound work jobs s
  taken : ∀ worker job, s.Holds worker job → job < s.next
  apart : ∀ worker other job, s.Holds worker job → s.Holds other job → worker = other
  results : ∀ job r, (job, r) ∈ s.results → Yields work jobs job r ∧ job < s.next
  distinct : (s.results.map (·.1)).Nodup
  unstored : ∀ worker job, s.Holds worker job → job ∉ s.results.map (·.1)
  error : ∀ job e, s.firstError = some (job, e) → Fails work jobs job e ∧ job < s.next
  covered : ∀ job < s.next, job < jobs.length →
    (∃ worker, s.Holds worker job) ∨ job ∈ s.results.map (·.1) ∨
      ∃ first e, s.firstError = some (first, e) ∧ first ≤ job
  failed : s.failed = true → ∃ job e, job < s.next ∧ Fails work jobs job e

end

section
variable {work : α → Except ε β} {jobs : List α} {s : State α ε β} {worker : Nat}
  {stage : Stage α ε β}

/-- What a stage says stays so while more jobs are taken and more of them fail. -/
theorem Stage.Sound.mono {s' : State α ε β} (h : stage.Sound work jobs s)
    (hnext : s.next ≤ s'.next) (hfailed : s.failed = true → s'.failed = true) :
    stage.Sound work jobs s' := by
  cases stage with
  | stopped => exact h.imp hfailed fun hn => Nat.le_trans hn hnext
  | _ => exact h

theorem inv_start (workers : Nat) : (start workers : State α ε β).Inv work jobs := by
  have hstage : ∀ (w : Nat) (stage : Stage α ε β),
      (start workers : State α ε β).stages[w]? = some stage → stage = .looking := by
    intro w stage hw
    obtain ⟨hlt, hget⟩ := List.getElem?_eq_some_iff.1 hw
    simpa [start] using hget.symm
  have hholds : ∀ w job, ¬ (start workers : State α ε β).Holds w job := by
    rintro w job ⟨stage, hw, hjob⟩
    rw [hstage w stage hw] at hjob
    cases hjob
  refine ⟨fun w stage hw => ?_, fun w job h => absurd h (hholds w job),
    fun w _ job h => absurd h (hholds w job), fun job r h => ?_, List.nodup_nil,
    fun w job h => absurd h (hholds w job), fun job e h => ?_, fun job h => ?_, fun h => ?_⟩
  · rw [hstage w stage hw]
    trivial
  all_goals simp [start] at h

/-! ### What a step does, kind by kind -/

namespace State.Inv

/-- A worker goes on with the job it has, or goes on having none. -/
theorem enter {old : Stage α ε β} (h : s.Inv work jobs) (hold : s.stages[worker]? = some old)
    (hjob : stage.job? = old.job?) (hs : stage.Sound work jobs s) :
    (s.enter worker stage).Inv work jobs := by
  have hw := (List.getElem?_eq_some_iff.1 hold).1
  have hholds : ∀ w job, (s.enter worker stage).Holds w job ↔ s.Holds w job := by
    intro w job
    rw [holds_enter hw]
    split
    · next e => rw [hjob, e, holds_iff hold]
    · exact Iff.rfl
  refine ⟨fun w stage' hw' => ?_, fun w job hj => h.taken w job ((hholds w job).1 hj),
    fun w w' job hj hj' => h.apart w w' job ((hholds w job).1 hj) ((hholds w' job).1 hj'),
    h.results, h.distinct, fun w job hj => h.unstored w job ((hholds w job).1 hj), h.error,
    fun job hj hl => ?_, h.failed⟩
  · rw [getElem?_enter hw] at hw'
    split at hw'
    · cases hw'
      exact hs
    · exact h.sound w stage' hw'
  · exact (h.covered job hj hl).imp_left fun ⟨w, hw⟩ => ⟨w, (hholds w job).2 hw⟩

/-- A failure becomes known. -/
theorem fail (h : s.Inv work jobs) (hf : ∃ job e, job < s.next ∧ Fails work jobs job e) :
    { s with failed := true }.Inv work jobs :=
  { h with
    sound := fun w stage hw => (h.sound w stage hw).mono (Nat.le_refl _) fun _ => rfl
    failed := fun _ => hf }

/-- A worker reaches past the end of the list. -/
theorem skip (h : s.Inv work jobs) (hend : jobs.length ≤ s.next) :
    { s with next := s.next + 1 }.Inv work jobs :=
  { h with
    sound := fun w stage hw => (h.sound w stage hw).mono (Nat.le_succ _) id
    taken := fun w job hj => Nat.lt_succ_of_lt (h.taken w job hj)
    results := fun job r hr => (h.results job r hr).imp_right Nat.lt_succ_of_lt
    error := fun job e he => (h.error job e he).imp_right Nat.lt_succ_of_lt
    covered := fun job _ hl => h.covered job (Nat.lt_of_lt_of_le hl hend) hl
    failed := fun hf => by
      obtain ⟨job, e, hj, he⟩ := h.failed hf
      exact ⟨job, e, Nat.lt_succ_of_lt hj, he⟩ }

/-- A worker without a job takes the next one. -/
theorem claim {input : α} (h : s.Inv work jobs) (hs : s.stages[worker]? = some .claiming)
    (hin : jobs[s.next]? = some input) :
    ({ s with next := s.next + 1 }.enter worker (.working s.next input)).Inv work jobs := by
  have hw := (List.getElem?_eq_some_iff.1 hs).1
  have hnone : ∀ job, ¬ s.Holds worker job := fun job hj => nomatch (holds_iff hs).1 hj
  have hholds : ∀ w job,
      ({ s with next := s.next + 1 }.enter worker (.working s.next input)).Holds w job ↔
        (w = worker ∧ job = s.next) ∨ s.Holds w job := by
    intro w job
    rw [holds_enter (s := { s with next := s.next + 1 }) hw]
    split
    · next e =>
      subst e
      simp only [Stage.job?, Option.some.injEq, true_and, hnone, or_false, eq_comm]
    · next e =>
      simp only [e, false_and, false_or]
      exact Iff.rfl
  refine ⟨fun w stage hw' => ?_, fun w job hj => ?_, fun w w' job hj hj' => ?_,
    fun job r hr => (h.results job r hr).imp_right Nat.lt_succ_of_lt, h.distinct,
    fun w job hj => ?_, fun job e he => (h.error job e he).imp_right Nat.lt_succ_of_lt,
    fun job hj hl => ?_, fun hf => ?_⟩
  · rw [getElem?_enter (s := { s with next := s.next + 1 }) hw] at hw'
    split at hw'
    · cases hw'
      exact hin
    · exact (h.sound w stage hw').mono (Nat.le_succ _) id
  · rcases (hholds w job).1 hj with ⟨-, rfl⟩ | hj
    · exact Nat.lt_succ_self _
    · exact Nat.lt_succ_of_lt (h.taken w job hj)
  · rcases (hholds w job).1 hj with ⟨hw₁, e⟩ | hj
    · rcases (hholds w' job).1 hj' with ⟨hw₂, -⟩ | hj'
      · rw [hw₁, hw₂]
      · exact absurd (e ▸ h.taken w' job hj') (Nat.lt_irrefl _)
    · rcases (hholds w' job).1 hj' with ⟨-, e⟩ | hj'
      · exact absurd (e ▸ h.taken w job hj) (Nat.lt_irrefl _)
      · exact h.apart w w' job hj hj'
  · rcases (hholds w job).1 hj with ⟨-, rfl⟩ | hj
    · intro hm
      obtain ⟨⟨job, r⟩, hr, e⟩ := List.mem_map.1 hm
      exact absurd (e ▸ (h.results job r hr).2) (Nat.lt_irrefl _)
    · exact h.unstored w job hj
  · rcases Nat.lt_or_eq_of_le (Nat.le_of_lt_succ hj) with hj | rfl
    · exact (h.covered job hj hl).imp_left fun ⟨w, hw⟩ => ⟨w, (hholds w job).2 (.inr hw)⟩
    · exact .inl ⟨worker, (hholds _ _).2 (.inl ⟨rfl, rfl⟩)⟩
  · obtain ⟨job, e, hj, he⟩ := h.failed hf
    exact ⟨job, e, Nat.lt_succ_of_lt hj, he⟩

/-- A worker stores the result of its job. -/
theorem store (h : s.Inv work jobs) {job : Nat} {r : β}
    (hs : s.stages[worker]? = some (.storing job r)) :
    ({ s with results := s.results ++ [(job, r)] }.enter worker .looking).Inv work jobs := by
  have hw := (List.getElem?_eq_some_iff.1 hs).1
  have hheld : s.Holds worker job := ⟨_, hs, rfl⟩
  have hholds : ∀ w j, ({ s with results := s.results ++ [(job, r)] }.enter worker .looking).Holds
      w j ↔ w ≠ worker ∧ s.Holds w j :=
    fun w j => holds_enter_looking (s := { s with results := s.results ++ [(job, r)] }) hw
  have hkeys : ∀ j, j ∈ (s.results ++ [(job, r)]).map (·.1) ↔
      j ∈ s.results.map (·.1) ∨ j = job := by simp
  refine ⟨fun w stage hw' => ?_, fun w j hj => h.taken w j ((hholds w j).1 hj).2,
    fun w w' j hj hj' => h.apart w w' j ((hholds w j).1 hj).2 ((hholds w' j).1 hj').2,
    fun j r' hr => ?_, ?_, fun w j hj hm => ?_, h.error, fun j hj hl => ?_, h.failed⟩
  · rw [getElem?_enter (s := { s with results := s.results ++ [(job, r)] }) hw] at hw'
    split at hw'
    · cases hw'
      trivial
    · exact h.sound w stage hw'
  · rcases List.mem_append.1 hr with hr | hr
    · exact h.results j r' hr
    · cases List.mem_singleton.1 hr
      exact ⟨h.sound worker _ hs, h.taken worker job hheld⟩
  · have hnew := h.unstored worker job hheld
    change ((s.results ++ [(job, r)]).map (·.1)).Nodup
    rw [List.map_append]
    refine List.nodup_append.2 ⟨h.distinct, List.nodup_singleton _, fun a ha b hb => ?_⟩
    rintro rfl
    rw [List.mem_singleton.1 hb] at ha
    exact hnew ha
  · obtain ⟨hne, hj'⟩ := (hholds w j).1 hj
    rcases (hkeys j).1 hm with hm | rfl
    · exact h.unstored w j hj' hm
    · exact hne (h.apart w worker j hj' hheld)
  · rcases h.covered j hj hl with ⟨w, hj'⟩ | hm | he
    · by_cases hww : w = worker
      · cases (holds_iff hs).1 (hww ▸ hj')
        exact .inr (.inl ((hkeys _).2 (.inr rfl)))
      · exact .inl ⟨w, (hholds w j).2 ⟨hww, hj'⟩⟩
    · exact .inr (.inl ((hkeys j).2 (.inl hm)))
    · exact .inr (.inr he)

end State.Inv

/-! ### The reported error -/

/-- The earlier of two errors is one of them, and of a job no later than either. -/
theorem earlier_spec (job : Nat) (e : ε) (slot : Option (Nat × ε)) :
    ∃ first e', earlier job e slot = some (first, e') ∧ first ≤ job ∧
      (∀ other e₀, slot = some (other, e₀) → first ≤ other) ∧
      ((first, e') = (job, e) ∨ slot = some (first, e')) := by
  unfold earlier
  split
  · exact ⟨job, e, rfl, Nat.le_refl _, by simp, .inl rfl⟩
  · next other e₀ =>
    split
    · next hlt =>
      refine ⟨job, e, rfl, Nat.le_refl _, fun o e' ho => ?_, .inl rfl⟩
      cases ho
      exact Nat.le_of_lt hlt
    · next hge =>
      refine ⟨other, e₀, rfl, Nat.le_of_not_lt hge, fun o e' ho => ?_, .inr rfl⟩
      cases ho
      exact Nat.le_refl _

/-- A worker reports the error of its job. -/
theorem State.Inv.report (h : s.Inv work jobs) {job : Nat} {e : ε}
    (hs : s.stages[worker]? = some (.reporting job e)) :
    ({ s with firstError := earlier job e s.firstError }.enter worker .looking).Inv work jobs := by
  have hw := (List.getElem?_eq_some_iff.1 hs).1
  have hheld : s.Holds worker job := ⟨_, hs, rfl⟩
  have hholds : ∀ w j, ({ s with firstError := earlier job e s.firstError }.enter worker
      .looking).Holds w j ↔ w ≠ worker ∧ s.Holds w j :=
    fun w j => State.holds_enter_looking
      (s := { s with firstError := earlier job e s.firstError }) hw
  obtain ⟨first, e', heq, hle, hmin, hfrom⟩ := earlier_spec job e s.firstError
  refine ⟨fun w stage hw' => ?_, fun w j hj => h.taken w j ((hholds w j).1 hj).2,
    fun w w' j hj hj' => h.apart w w' j ((hholds w j).1 hj).2 ((hholds w' j).1 hj').2,
    h.results, h.distinct, fun w j hj => h.unstored w j ((hholds w j).1 hj).2, fun j e₁ he => ?_,
    fun j hj hl => ?_, h.failed⟩
  · rw [State.getElem?_enter (s := { s with firstError := earlier job e s.firstError }) hw] at hw'
    split at hw'
    · cases hw'
      trivial
    · exact h.sound w stage hw'
  · rw [show (State.enter _ worker .looking).firstError = earlier job e s.firstError from rfl,
      heq] at he
    cases he
    rcases hfrom with hfrom | hfrom
    · cases hfrom
      exact ⟨h.sound worker _ hs, h.taken worker job hheld⟩
    · exact h.error _ _ hfrom
  · rcases h.covered j hj hl with ⟨w, hj'⟩ | hm | ⟨other, e₀, ho, hoj⟩
    · by_cases hww : w = worker
      · cases (State.holds_iff hs).1 (hww ▸ hj')
        exact .inr (.inr ⟨first, e', heq, hle⟩)
      · exact .inl ⟨w, (hholds w j).2 ⟨hww, hj'⟩⟩
    · exact .inr (.inl hm)
    · exact .inr (.inr ⟨first, e', heq, Nat.le_trans (hmin other e₀ ho) hoj⟩)

/-! ### Every step and every run -/

theorem State.Inv.step (h : s.Inv work jobs) (worker : Nat) :
    (s.step work jobs worker).Inv work jobs := by
  unfold State.step
  split
  case h_1 | h_2 => exact h
  case h_3 hs =>
    -- looks whether a job has failed
    split
    · next hf => exact h.enter hs rfl (.inl hf)
    · exact h.enter hs rfl trivial
  case h_4 hs =>
    -- takes the next job
    split
    · next input hin => exact h.claim hs hin
    · next hend =>
      have hle := List.getElem?_eq_none_iff.1 hend
      exact (h.skip hle).enter hs rfl (.inr (Nat.le_succ_of_le hle))
  case h_5 job input hs =>
    -- does its job
    have hin : jobs[job]? = some input := h.sound worker _ hs
    split
    · next r hr => exact h.enter hs rfl ⟨input, hin, hr⟩
    · next e he => exact h.enter hs rfl ⟨input, hin, he⟩
  case h_6 hs => exact h.store hs
  case h_7 job e hs =>
    -- tells the others of its failure
    have hfail : Fails work jobs job e := h.sound worker _ hs
    exact (h.fail ⟨job, e, h.taken worker job ⟨_, hs, rfl⟩, hfail⟩).enter hs rfl hfail
  case h_8 hs => exact h.report hs

theorem State.Inv.run (h : s.Inv work jobs) (schedule : List Nat) :
    (s.run work jobs schedule).Inv work jobs := by
  induction schedule generalizing s with
  | nil => exact h
  | cons worker schedule ih => exact ih (h.step worker)

end

/-! ## The outcome -/

section
variable {work : α → Except ε β} {jobs : List α} {s : State α ε β}

theorem isDone_iff : s.isDone = true ↔ ∀ stage ∈ s.stages, stage = .stopped := by
  simp only [State.isDone, List.all_eq_true]
  refine forall_congr' fun stage => imp_congr_right fun _ => ?_
  cases stage <;> simp

theorem length_step (s : State α ε β) (worker : Nat) :
    (s.step work jobs worker).stages.length = s.stages.length := by
  unfold State.step
  split <;> simp [State.enter]

theorem length_run (s : State α ε β) (schedule : List Nat) :
    (s.run work jobs schedule).stages.length = s.stages.length := by
  induction schedule generalizing s with
  | nil => rfl
  | cons worker schedule ih => exact (ih _).trans (length_step s worker)

namespace State.Inv

/-- Workers that have stopped hold no jobs. -/
theorem not_holds (hd : s.isDone = true) (worker job : Nat) : ¬ s.Holds worker job := by
  rintro ⟨stage, hs, hjob⟩
  rw [isDone_iff.1 hd stage (List.mem_of_getElem? hs)] at hjob
  cases hjob

/-- Once all have stopped, a job taken from the list has a result or is no earlier than the one
whose error was reported. -/
theorem settled (h : s.Inv work jobs) (hd : s.isDone = true) {job : Nat} (hj : job < s.next)
    (hl : job < jobs.length) : (∃ r, (job, r) ∈ s.results) ∨
      ∃ first e, s.firstError = some (first, e) ∧ first ≤ job := by
  rcases h.covered job hj hl with ⟨worker, hw⟩ | hm | he
  · exact absurd hw (not_holds hd worker job)
  · obtain ⟨⟨j, r⟩, hr, rfl⟩ := List.mem_map.1 hm
    exact .inl ⟨r, hr⟩
  · exact .inr he

/-- The reported error is the one that doing the jobs in order comes to. -/
theorem mapM_error (h : s.Inv work jobs) (hd : s.isDone = true) {job : Nat} {e : ε}
    (he : s.firstError = some (job, e)) : jobs.mapM work = .error e := by
  obtain ⟨hfail, hj⟩ := h.error job e he
  obtain ⟨input, hin, -⟩ := hfail
  have hl := (List.getElem?_eq_some_iff.1 hin).1
  refine mapM_eq_error (h.error job e he).1 fun j hjj => ?_
  rcases h.settled hd (Nat.lt_trans hjj hj) (Nat.lt_trans hjj hl) with
    ⟨r, hr⟩ | ⟨first, e', hf, hle⟩
  · exact ⟨r, (h.results j r hr).1⟩
  · rw [he] at hf
    cases hf
    exact absurd hjj (Nat.not_lt.2 hle)

/-- Without an error all jobs were taken: none failed, and some worker stopped. -/
theorem all_taken (h : s.Inv work jobs) (hd : s.isDone = true) (hw : 0 < s.stages.length)
    (hnone : s.firstError = none) : jobs.length ≤ s.next := by
  have hs : s.stages[0]? = some .stopped := by
    rw [List.getElem?_eq_getElem hw, isDone_iff.1 hd _ (List.getElem_mem hw)]
  rcases h.sound 0 _ hs with hf | hend
  · obtain ⟨job, e, hj, he⟩ := h.failed hf
    obtain ⟨input, hin, hwork⟩ := he
    have hl := (List.getElem?_eq_some_iff.1 hin).1
    rcases h.settled hd hj hl with ⟨r, hr⟩ | ⟨first, e', hfirst, -⟩
    · exact absurd ⟨input, hin, hwork⟩ (h.results job r hr).1.not_fails
    · rw [hnone] at hfirst
      cases hfirst
  · exact hend

/-- Without an error the places of the stored results, put in order, are all there are. -/
theorem places_eq_range (h : s.Inv work jobs) (hd : s.isDone = true) (hw : 0 < s.stages.length)
    (hnone : s.firstError = none) :
    (s.results.mergeSort fun a b => a.1 ≤ b.1).map (·.1) = List.range jobs.length := by
  have hperm : ((s.results.mergeSort fun a b => a.1 ≤ b.1).map (·.1)).Perm
      (List.range jobs.length) := by
    refine ((List.mergeSort_perm _ _).map _).trans ?_
    refine (List.perm_ext_iff_of_nodup h.distinct List.nodup_range).2 fun job => ?_
    rw [List.mem_range]
    constructor
    · intro hm
      obtain ⟨⟨j, r⟩, hr, rfl⟩ := List.mem_map.1 hm
      exact (h.results j r hr).1.lt_length
    · intro hl
      rcases h.settled hd (Nat.lt_of_lt_of_le hl (h.all_taken hd hw hnone)) hl with
        ⟨r, hr⟩ | ⟨first, e, hf, -⟩
      · exact List.mem_map.2 ⟨_, hr, rfl⟩
      · rw [hnone] at hf
        cases hf
  refine hperm.eq_of_pairwise (fun a b _ _ hab hba => Nat.le_antisymm hab hba) ?_
    List.pairwise_le_range
  refine List.pairwise_map.2 ?_
  refine (List.pairwise_mergeSort (fun a b c hab hbc => ?_) (fun a b => ?_) s.results).imp ?_
  · simp only [decide_eq_true_eq] at hab hbc ⊢
    exact Nat.le_trans hab hbc
  · simpa using Nat.le_total a.1 b.1
  · intro a b hab
    simpa using hab

/-- Without an error the results in order are those of doing the jobs in order. -/
theorem mapM_ok (h : s.Inv work jobs) (hd : s.isDone = true) (hw : 0 < s.stages.length)
    (hnone : s.firstError = none) :
    jobs.mapM work = .ok ((s.results.mergeSort fun a b => a.1 ≤ b.1).map (·.2)) := by
  have hplaces := h.places_eq_range hd hw hnone
  generalize hsorted : (s.results.mergeSort fun a b => a.1 ≤ b.1) = sorted at hplaces ⊢
  have hlen : sorted.length = jobs.length := by
    simpa using congrArg List.length hplaces
  refine mapM_eq_ok (by simpa using hlen) fun i r hr => ?_
  rw [List.getElem?_map, Option.map_eq_some_iff] at hr
  obtain ⟨⟨job, r'⟩, hget, rfl⟩ := hr
  have hi := (List.getElem?_eq_some_iff.1 hget).1
  have hjob : job = i := by
    have hat := congrArg (·[i]?) hplaces
    simpa [hget, List.getElem?_range (hlen ▸ hi)] using hat
  have hmem : (job, r') ∈ s.results :=
    List.mem_mergeSort.1 (hsorted ▸ List.mem_of_getElem? hget)
  exact hjob ▸ (h.results job r' hmem).1

end State.Inv

/-- **Any schedule comes to the same.** Once all workers have stopped, the outcome is that of doing
the jobs one after the other. -/
theorem outcome_eq_mapM {workers : Nat} (hw : 0 < workers) (schedule : List Nat)
    (hd : ((start workers).run work jobs schedule).isDone = true) :
    ((start workers).run work jobs schedule).outcome = jobs.mapM work := by
  have hstart : (start workers : State α ε β).Inv work jobs := inv_start workers
  have h := hstart.run schedule
  have hlen : 0 < ((start workers).run work jobs schedule).stages.length := by
    rw [length_run]
    simpa [start] using hw
  unfold State.outcome
  split
  · next job e he => exact (h.mapM_error hd he).symm
  · next hnone => exact (h.mapM_ok hd hlen hnone).symm

end

/-! ## Every pool can finish -/

/-- A bound on the steps that a worker takes before it wants a job again. -/
def Stage.weight : Stage α ε β → Nat
  | .stopped => 0
  | .claiming => 1
  | .looking => 2
  | .storing .. | .reporting .. => 3
  | .warning .. => 4
  | .working .. => 5

def Stage.weights (stages : List (Stage α ε β)) : Nat :=
  stages.foldr (fun stage n => stage.weight + n) 0

/-- A bound on the steps that are left; a job takes five. -/
def State.weight (jobs : List α) (s : State α ε β) : Nat :=
  Stage.weights s.stages + 5 * (jobs.length - s.next)

section
variable {work : α → Except ε β} {jobs : List α} {s : State α ε β} {worker : Nat}

theorem weights_set {stages : List (Stage α ε β)} {old : Stage α ε β}
    (h : stages[worker]? = some old) (stage : Stage α ε β) :
    Stage.weights (stages.set worker stage) + old.weight =
      Stage.weights stages + stage.weight := by
  induction stages generalizing worker with
  | nil => simp at h
  | cons first stages ih =>
    cases worker with
    | zero =>
      cases h
      simp only [List.set_cons_zero, Stage.weights, List.foldr_cons]
      omega
    | succ worker =>
      have hrest : stages[worker]? = some old := by simpa using h
      have := ih hrest
      simp only [List.set_cons_succ, Stage.weights, List.foldr_cons] at this ⊢
      omega

/-- A worker brings the end nearer by entering a stage that leaves less to do, for itself and of the
list, than there was. -/
theorem weight_enter_lt {s' : State α ε β} {old stage : Stage α ε β}
    (hs : s.stages[worker]? = some old) (hstages : s'.stages = s.stages)
    (hlt : stage.weight + 5 * (jobs.length - s'.next) <
      old.weight + 5 * (jobs.length - s.next)) :
    (s'.enter worker stage).weight jobs < s.weight jobs := by
  have hset := weights_set hs stage
  simp only [State.weight, State.enter, hstages]
  omega

/-- Every step of a worker that has not stopped brings the end nearer. -/
theorem weight_step_lt {old : Stage α ε β} (hs : s.stages[worker]? = some old)
    (hne : old ≠ .stopped) : (s.step work jobs worker).weight jobs < s.weight jobs := by
  unfold State.step
  rw [hs]
  cases old with
  | stopped => exact absurd rfl hne
  | looking =>
    refine weight_enter_lt hs rfl ?_
    split <;> simp [Stage.weight]
  | claiming =>
    refine weight_enter_lt hs rfl ?_
    split
    · next input hin =>
      have hlt := (List.getElem?_eq_some_iff.1 hin).1
      simp only [Stage.weight]
      omega
    · simp only [Stage.weight]
      omega
  | working job input =>
    refine weight_enter_lt hs rfl ?_
    split <;> simp [Stage.weight]
  | storing job r => exact weight_enter_lt hs rfl (by simp [Stage.weight])
  | warning job e => exact weight_enter_lt hs rfl (by simp [Stage.weight])
  | reporting job e => exact weight_enter_lt hs rfl (by simp [Stage.weight])

/-- From any state some schedule brings all workers to a stop. -/
theorem exists_schedule_done (work : α → Except ε β) (jobs : List α) (s : State α ε β) :
    ∃ schedule, (s.run work jobs schedule).isDone = true := by
  induction hn : s.weight jobs using Nat.strongRecOn generalizing s with
  | ind n ih =>
    by_cases hd : s.isDone = true
    · exact ⟨[], hd⟩
    · rw [isDone_iff] at hd
      push Not at hd
      obtain ⟨stage, hmem, hne⟩ := hd
      obtain ⟨worker, hs⟩ := List.getElem?_of_mem hmem
      have hlt : (s.step work jobs worker).weight jobs < s.weight jobs := weight_step_lt hs hne
      obtain ⟨schedule, hdone⟩ := ih _ (hn ▸ hlt) (s.step work jobs worker) rfl
      exact ⟨worker :: schedule, hdone⟩

end

end EntityGen.Pool
