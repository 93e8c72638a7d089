import EntityGen.Plan.Shared
import EntityGen.Proofs.Plan.Basic
import EntityGen.Proofs.Pool

/-! # What several workers plan

However many workers share the roots and in whatever order they take their steps, what they come to
is the plan (`planBy_eq_plan`), and they can always come to it (`exists_schedule_isDone`). A graph
starts one worker at least, whatever the machine offers (`workerCount_pos`).

**What the plan is** (`planBy_spec`): one entity and one field interface for each root in strictly
increasing order of their names and the warnings of the roots in that order, or the error of the
first root that fails. -/

namespace EntityGen.ClassGraph

variable {g : ClassGraph} {workers : Nat} {schedule : List Nat} {root : StubClass}
  {roots : List StubClass} {e : GenerationError}

/-! ## Roots as jobs -/

/-- The jobs of the roots, one after the other, end with the error that planning them ends with. -/
theorem mapM_planRoot_error (h : (g.planClasses roots).result = .error e) :
    roots.mapM g.planRoot = .error e := by
  induction roots with
  | nil => cases h
  | cons root roots ih =>
    rw [planClasses] at h
    rw [List.mapM_cons, planRoot]
    cases hroot : (g.planClass root).result with
    | error e' =>
      rw [Diagnosed.bind_error hroot] at h
      cases h
      rfl
    | ok p =>
      rw [Diagnosed.bind_ok hroot] at h
      cases hroots : (g.planClasses roots).result with
      | error e' =>
        rw [Diagnosed.bind_error hroots] at h
        cases h
        change Except.bind (.ok _) _ = _
        rw [Except.bind, ih hroots]
        rfl
      | ok ps =>
        rw [Diagnosed.bind_ok hroots] at h
        cases h

theorem mapM_planRoot_ok {planned : List PlannedClass}
    (h : (g.planClasses roots).result = .ok planned) :
    ∃ rs, roots.mapM g.planRoot = .ok rs ∧ rs.map (·.planned) = planned ∧
      rs.flatMap (·.warnings) = (g.planClasses roots).warnings ∧
      rs.flatMap (·.logged) = (g.planClasses roots).logged := by
  induction roots generalizing planned with
  | nil =>
    cases h
    exact ⟨[], rfl, rfl, rfl, rfl⟩
  | cons root roots ih =>
    obtain ⟨p, ps, hp, hps, rfl⟩ := List.forall₂_cons_left_iff.1 (planClasses_ok_iff.1 h)
    have hps := planClasses_ok_iff.2 hps
    obtain ⟨rs, hrs, rfl, hwarnings, hlogged⟩ := ih hps
    refine ⟨⟨p, (g.planClass root).warnings, (g.planClass root).logged⟩ :: rs, ?_, rfl, ?_, ?_⟩
    · rw [List.mapM_cons, planRoot, hp, hrs]
      rfl
    · rw [planClasses, Diagnosed.bind_ok hp, Diagnosed.bind_ok hps, List.flatMap_cons, hwarnings]
      simp [Diagnosed.pure_def]
    · rw [planClasses, Diagnosed.bind_ok hp, Diagnosed.bind_ok hps, List.flatMap_cons, hlogged]
      simp [Diagnosed.pure_def]

/-! ## Workers -/

theorem workerCount_pos (g : ClassGraph) (available : Nat) : 0 < g.workerCount available := by
  rw [workerCount, Config.workersFor]
  exact Nat.lt_of_lt_of_le Nat.one_pos (Nat.le_max_left _ _)

/-- The workers can always come to a stop, whatever steps they have taken. -/
theorem exists_schedule_isDone (g : ClassGraph) (workers : Nat) (schedule : List Nat) :
    ∃ further, (g.runWorkers workers (schedule ++ further)).isDone = true := by
  obtain ⟨further, hdone⟩ :=
    Pool.exists_schedule_done g.planRoot g.roots (g.runWorkers workers schedule)
  refine ⟨further, ?_⟩
  rw [runWorkers, Pool.State.run, List.foldl_append]
  exact hdone

/-- Workers that have stopped have come to the plan. -/
theorem planBy_eq_plan (hw : 0 < workers)
    (hdone : (g.runWorkers workers schedule).isDone = true) :
    g.planBy workers schedule = g.plan := by
  unfold planBy ClassGraph.plan
  dsimp only
  rw [runWorkers, Pool.outcome_eq_mapM hw schedule hdone]
  cases h : (g.planClasses g.roots).result with
  | error e =>
    rw [mapM_planRoot_error h]
    rfl
  | ok planned =>
    obtain ⟨rs, hrs, hplanned, hwarnings, hlogged⟩ := mapM_planRoot_ok h
    rw [hrs]
    simp only [Except.map, hplanned, hwarnings, hlogged]

/-! ## The plan -/

/-- Of roots that do not all have a plan one fails before all others. -/
theorem exists_first_failing
    (h : ¬ ∀ root ∈ roots, ∃ p, (g.planClass root).result = .ok p) :
    ∃ before root after e, roots = before ++ root :: after ∧
      (∀ other ∈ before, ∃ p, (g.planClass other).result = .ok p) ∧
      (g.planClass root).result = .error e := by
  induction roots with
  | nil => exact absurd nofun h
  | cons root roots ih =>
    cases hroot : (g.planClass root).result with
    | error e => exact ⟨[], root, roots, e, rfl, nofun, hroot⟩
    | ok p =>
      have hrest : ¬ ∀ root ∈ roots, ∃ p, (g.planClass root).result = .ok p := fun hall =>
        h (List.forall_mem_cons.2 ⟨⟨p, hroot⟩, hall⟩)
      obtain ⟨before, failing, after, e, rfl, hbefore, he⟩ := ih hrest
      exact ⟨root :: before, failing, after, e, rfl,
        List.forall_mem_cons.2 ⟨⟨p, hroot⟩, hbefore⟩, he⟩

/-- A root of a lesser name than another comes before it. -/
theorem mem_before_of_lt (hg : g.Accepted) {before after : List StubClass} {other : StubClass}
    (hsplit : g.roots = before ++ root :: after) (hother : other ∈ g.roots)
    (hlt : other.qualifiedName < root.qualifiedName) : other ∈ before := by
  have hsorted := List.pairwise_map.1 (roots_pairwise hg)
  rw [hsplit] at hsorted hother
  rcases List.mem_append.1 hother with hother | hother
  · exact hother
  · rcases List.mem_cons.1 hother with rfl | hother
    · exact absurd hlt (String.lt_irrefl _)
    · have hgt := (List.pairwise_cons.1 (List.pairwise_append.1 hsorted).2.1).1 other hother
      exact absurd (String.lt_trans hlt hgt) (String.lt_irrefl _)

/-- A plan has one entity and one field interface for each root, in the order of the roots. -/
theorem stubClasses_of_plan {plan : Plan} (h : g.plan = .ok plan) :
    plan.entities.map (·.value.stubClass) = g.roots.map (·.qualifiedName) ∧
      plan.fields.map (·.value.stubClass) = g.roots.map (·.qualifiedName) := by
  obtain ⟨planned, hplanned, hentities, hfields, -⟩ := plan_ok h
  rw [hentities, hfields, List.map_map, List.map_map, ← List.forall₂_eq_eq_eq]
  simp only [List.forall₂_map_left_iff, List.forall₂_map_right_iff]
  exact ⟨hplanned.flip.imp fun _ _ hp => (stubClass_of_planClass hp).1,
    hplanned.flip.imp fun _ _ hp => (stubClass_of_planClass hp).2⟩

/-- **Workers plan the roots in order.** Once all workers have stopped, whatever steps they took: if
each root has a plan there is one entity and one field interface for each, in strictly increasing
order of their names, with the warnings in that order; if not, the outcome is the error of the root
that fails and has the least name of those that do. The workers that the graph starts on some
machine can always come to a stop, and come to the same. -/
theorem planBy_spec (hg : g.Accepted) (hw : 0 < workers)
    (hdone : (g.runWorkers workers schedule).isDone = true) :
    ((∀ root ∈ g.roots, ∃ p, (g.planClass root).result = .ok p) →
      ∃ plan planned, g.planBy workers schedule = .ok plan ∧
        List.Forall₂ (fun root p => (g.planClass root).result = .ok p) g.roots planned ∧
        plan.entities = planned.map (·.entity) ∧ plan.fields = planned.map (·.fields) ∧
        plan.entities.map (·.value.stubClass) = g.roots.map (·.qualifiedName) ∧
        plan.fields.map (·.value.stubClass) = g.roots.map (·.qualifiedName) ∧
        (g.roots.map (·.qualifiedName)).Pairwise (· < ·) ∧
        plan.warnings = g.roots.flatMap fun root => (g.planClass root).warnings) ∧
    ((¬ ∀ root ∈ g.roots, ∃ p, (g.planClass root).result = .ok p) →
      ∃ root ∈ g.roots, ∃ e, (g.planClass root).result = .error e ∧
        (∀ other ∈ g.roots, other.qualifiedName < root.qualifiedName →
          ∃ p, (g.planClass other).result = .ok p) ∧
        g.planBy workers schedule = .error e) ∧
    ∀ available other,
      (∃ further, (g.runWorkers (g.workerCount available) (other ++ further)).isDone = true) ∧
      ((g.runWorkers (g.workerCount available) other).isDone = true →
        g.planBy (g.workerCount available) other = g.planBy workers schedule) := by
  rw [planBy_eq_plan hw hdone]
  refine ⟨fun hall => ?_, fun hnot => ?_, fun available other => ⟨?_, fun hstop => ?_⟩⟩
  · obtain ⟨plan, hplan⟩ := exists_plan hall
    obtain ⟨planned, hplanned, hentities, hfields, hwarnings⟩ := plan_ok hplan
    obtain ⟨hnames, hnames'⟩ := stubClasses_of_plan hplan
    exact ⟨plan, planned, hplan, hplanned, hentities, hfields, hnames, hnames', roots_pairwise hg,
      hwarnings⟩
  · obtain ⟨before, root, after, e, hsplit, hbefore, he⟩ := exists_first_failing hnot
    refine ⟨root, ?_, e, he, fun other hother hlt => ?_, ?_⟩
    · rw [hsplit]
      exact List.mem_append_right _ List.mem_cons_self
    · exact hbefore other (mem_before_of_lt hg hsplit hother hlt)
    · unfold ClassGraph.plan
      dsimp only
      rw [hsplit, planClasses_error hbefore he]
      rfl
  · exact g.exists_schedule_isDone _ other
  · exact planBy_eq_plan (g.workerCount_pos available) hstop

/-! ## Two roots that fail -/

/-- Two classes whose identities cannot be cast. -/
def uncastable : ClassGraph :=
  build ⟨ClassDef.layoutAll none 0
    [⟨"a", "Note", false, none, [], [⟨"getId", [], "a.Offer"⟩], []⟩,
      ⟨"a", "Offer", false, none, [], [⟨"getId", [], "a.Note"⟩], []⟩]⟩ {}

/-- Worker 1 fails on the second root and has reported it when worker 0 fails on the first. -/
def uncastableSchedule : List Nat := [0, 1, 0, 1, 1, 1, 1, 0, 0, 0, 0, 1]

theorem roots_uncastable : uncastable.roots = uncastable.classes.classes :=
  roots_eq (by decide) (by decide +kernel)

theorem isDone_uncastable : (uncastable.runWorkers 2 uncastableSchedule).isDone = true := by
  rw [runWorkers, roots_uncastable]
  decide

theorem planBy_uncastable : ∃ root ∈ uncastable.roots, root.qualifiedName = "a.Note" ∧
    ∃ e, (uncastable.planClass root).result = .error e ∧
      uncastable.planBy 2 uncastableSchedule = .error e := by
  have hg : uncastable.Accepted :=
    accepted_of_fault?_eq_none (by decide) (by decide +kernel)
  have hfail : ∀ root ∈ uncastable.roots, (uncastable.planClass root).result.isOk = false := by
    rw [roots_uncastable]
    decide
  have hok : ∀ root ∈ uncastable.roots, ¬ ∃ p, (uncastable.planClass root).result = .ok p := by
    rintro root hroot ⟨p, hp⟩
    have hnot := hfail root hroot
    rw [hp] at hnot
    cases hnot
  have hnotes : ∃ note ∈ uncastable.roots, note.qualifiedName = "a.Note" ∧
      ∀ root ∈ uncastable.roots, root = note ∨ note.qualifiedName < root.qualifiedName := by
    rw [roots_uncastable]
    decide
  obtain ⟨note, hnote, hname, hleast⟩ := hnotes
  obtain ⟨root, hroot, e, he, hbefore, hplan⟩ :=
    (planBy_spec hg (by decide) isDone_uncastable).2.1 fun hall => hok note hnote (hall note hnote)
  rcases hleast root hroot with rfl | hlt
  · exact ⟨root, hroot, hname, e, he, hplan⟩
  · exact absurd (hbefore note hnote hlt) (hok note hnote)

end EntityGen.ClassGraph
