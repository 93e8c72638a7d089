import EntityGen.Proofs.Edits
import EntityGen.Proofs.Output.Place

/-! # Runs, file by file

A run writes the files of its plan one after the other, each by the rule of its kind
(`writeTo_eq`). What a file finds when the run comes to it is in `Artifact.reached`.

* `outcomes_addAll`: the outcomes of a run that succeeds are those of its files, and a file is
  skipped exactly if it is of a kind that is kept and something is there when the run comes to it.
* `Artifact.Written`: what writing a file leaves behind, and `write_again`: writing it once more
  changes nothing else.
* `node?_addAll`: what is at the place of a file after others were written.
* `counts_addAll`, `counts_total`: the report counts every file once, as what became of it. -/

namespace EntityGen

/-- Whether a file of the kind is left alone where there is something already. -/
def ArtifactKind.isKept : ArtifactKind → Bool
  | .entity | .fields => true
  | .factory | .fieldProvider => false

namespace Artifact

/-- Writes a file by the rule of its kind. -/
def produce (root : String) (a : Artifact) : TreeM WriteOutcome :=
  if a.kind.isKept then a.writeIfAbsent root else a.write root

/-- The tree as each of several files finds it. -/
def reached (root : String) : FileTree → List Artifact → List (Artifact × FileTree)
  | _, [] => []
  | t, a :: artifacts => (a, t) :: reached root ((a.produce root).run t).2 artifacts

/-- What becomes of a file that finds the tree `t`. -/
def outcomeIn (root : String) (t : FileTree) (a : Artifact) : WriteOutcome :=
  if a.kind.isKept && t.isThere (a.file.pathIn root) then .skipped else .created

/-- The tree `s` comes from `t` by writing a file. -/
structure Written (root : String) (a : Artifact) (t s : FileTree) : Prop where
  grows : t.Grows s
  place : s.place? (a.file.pathIn root) = some (a.file.landing t.current root)
  node : s.node? (a.file.landing t.current root) = some (.file a.text)
  passage : ∀ q ∈ a.file.passage t.current root, s.isDirectory q = true
  other : ∀ q, q ≠ a.file.landing t.current root →
    s.node? q = t.node? q ∨ q ∈ a.file.passage t.current root ∧ t.node? q = none

end Artifact

/-- Writes several files, each by the rule of its kind. -/
def Report.addAll (root : String) : Report → List Artifact → TreeM Report
  | r, [] => return r
  | r, a :: artifacts => do addAll root (r.record a.kind (← a.produce root)) artifacts

/-- The files of a plan in the order in which they are written. -/
def Plan.inOrder (p : Plan) : List Artifact :=
  p.entities.map EntityTree.artifact
    ++ p.providerInterface.artifact :: (p.fields.map FieldsTree.artifact ++ [p.factory.artifact])

/-! ## The rule of each kind -/

section

variable {root : String}

theorem addAll_append (r : Report) (first second : List Artifact) :
    r.addAll root (first ++ second) =
      r.addAll root first >>= fun r => r.addAll root second := by
  induction first generalizing r with
  | nil => simp [Report.addAll]
  | cons a first ih => simp [Report.addAll, ih]

theorem addAbsent_eq {artifacts : List Artifact} (h : ∀ a ∈ artifacts, a.kind.isKept = true)
    (r : Report) : (r.addAbsent root artifacts : TreeM Report) = r.addAll root artifacts := by
  induction artifacts generalizing r with
  | nil => rfl
  | cons a artifacts ih =>
    have hkind := h a List.mem_cons_self
    simp only [Report.addAbsent, Report.addAll, Artifact.produce, hkind, if_true,
      ih fun a ha => h a (List.mem_cons_of_mem _ ha)]

theorem addWritten_eq {a : Artifact} (h : a.kind.isKept = false) (r : Report) :
    (r.addWritten root a : TreeM Report) = r.addAll root [a] := by
  simp [Report.addWritten, Report.addAll, Artifact.produce, h]

/-- A run writes its files in order, each by the rule of its kind. -/
theorem writeTo_eq (root : String) (p : Plan) :
    (p.writeTo root : TreeM Report) = (Report.addWarnings {} p.warnings).addAll root p.inOrder := by
  have hentities : ∀ a ∈ p.entities.map EntityTree.artifact, a.kind.isKept = true := by
    simp [EntityTree.artifact, ArtifactKind.isKept]
  have hfields : ∀ a ∈ p.fields.map FieldsTree.artifact, a.kind.isKept = true := by
    simp [FieldsTree.artifact, ArtifactKind.isKept]
  rw [Plan.inOrder, List.append_cons]
  simp only [Plan.writeTo, addAbsent_eq hentities, addAbsent_eq hfields, addAll_append, bind_assoc,
    addWritten_eq (a := p.providerInterface.artifact) rfl,
    addWritten_eq (a := p.factory.artifact) rfl]

end

/-! ## Work that succeeds -/

/-- From the tree `t`, work comes to `a` and leaves the tree `s`. -/
def Succeeds {α : Type} (x : TreeM α) (t : FileTree) (a : α) (s : FileTree) : Prop :=
  (x.run t : Except RunError α × FileTree) = (.ok a, s)

section

variable {α β : Type} {t s : FileTree} {a b : α}

theorem succeeds_pure : Succeeds (pure a) t b s ↔ a = b ∧ t = s := by
  change ((.ok a, t) : Except RunError α × FileTree) = (.ok b, s) ↔ _
  rw [Prod.mk.injEq, Except.ok.injEq]

theorem succeeds_bind {x : TreeM α} {f : α → TreeM β} {b : β} :
    Succeeds (x >>= f) t b s ↔ ∃ a u, Succeeds x t a u ∧ Succeeds (f a) u b s := by
  unfold Succeeds
  rw [run_bind]
  generalize x.run t = result
  obtain ⟨result, u⟩ := result
  constructor
  · intro h
    cases result with
    | ok a => exact ⟨a, u, rfl, h⟩
    | error e => cases h
  · rintro ⟨a, u, hx, h⟩
    cases hx
    exact h

/-- Work goes on after an operation only if that is done. -/
theorem succeeds_orThrow {x : TreeM Bool} {e : RunError} {k : TreeM α} :
    Succeeds (x >>= fun done => if !done then (throw e : TreeM Unit) >>= fun _ => k else k) t a s ↔
      ∃ u, Succeeds x t true u ∧ Succeeds k u a s := by
  rw [succeeds_bind]
  constructor
  · rintro ⟨done, u, hx, hk⟩
    cases done with
    | true => exact ⟨u, hx, hk⟩
    | false => cases hk
  · rintro ⟨u, hx, hk⟩
    exact ⟨true, u, hx, hk⟩

theorem succeeds_isThere {path : String} {there : Bool} :
    Succeeds (FileAccess.isThere path) t there s ↔ t.isThere path = there ∧ t = s := by
  change ((.ok (t.isThere path), t) : Except RunError Bool × FileTree) = (.ok there, s) ↔ _
  rw [Prod.mk.injEq, Except.ok.injEq]

theorem succeeds_createDirs {path : String} {done : Bool} :
    Succeeds (FileAccess.createDirs path) t done s ↔ t.createDirs path = (s, done) := by
  change ((.ok (t.createDirs path).2, (t.createDirs path).1) : Except RunError Bool × FileTree) =
    (.ok done, s) ↔ _
  rw [Prod.mk.injEq, Except.ok.injEq, and_comm, Prod.ext_iff]

theorem succeeds_writeText {path text : String} {done : Bool} :
    Succeeds (FileAccess.writeText path text) t done s ↔ t.writeText path text = (s, done) := by
  change ((.ok (t.writeText path text).2, (t.writeText path text).1) :
    Except RunError Bool × FileTree) = (.ok done, s) ↔ _
  rw [Prod.mk.injEq, Except.ok.injEq, and_comm, Prod.ext_iff]

end

/-! ## One file -/

section

variable {root : String} {a : Artifact} {t s u : FileTree} {o : WriteOutcome}

theorem succeeds_write :
    Succeeds (a.write root) t o s ↔ o = .created ∧ ∃ u,
      t.createDirs (Path.parent (a.file.pathIn root)) = (u, true) ∧
        u.writeText (a.file.pathIn root) a.text = (s, true) := by
  unfold Artifact.write
  dsimp only
  simp only [succeeds_orThrow, succeeds_createDirs, succeeds_writeText, succeeds_pure]
  constructor
  · rintro ⟨u, hdirs, _, hwrite, rfl, rfl⟩
    exact ⟨rfl, u, hdirs, hwrite⟩
  · rintro ⟨rfl, u, hdirs, hwrite⟩
    exact ⟨u, hdirs, s, hwrite, rfl, rfl⟩

theorem written_of_write (h : Succeeds (a.write root) t o s) : a.Written root t s := by
  obtain ⟨-, u, hdirs, hwrite⟩ := succeeds_write.1 h
  have hgrows := FileTree.grows_createDirs t (Path.parent (a.file.pathIn root))
  have hmade := t.node?_createDirs_parent (a.file.pathIn root)
  rw [hdirs] at hgrows hmade
  have hgrows' := FileTree.grows_writeText hwrite
  obtain ⟨q, hq, hdir, rfl⟩ := FileTree.writeText_eq_true_iff.1 hwrite
  have hlanding : q = a.file.landing t.current root := by
    rw [FileTree.eq_resolve hq, hgrows.current]
    rfl
  subst hlanding
  have hput := u.node?_put (FileTree.ne_nil_of_not_isDirectory hdir) (.file a.text)
  refine ⟨hgrows.trans hgrows', hgrows'.place? hq, by rw [hput, if_pos rfl], fun q hq => ?_,
    fun q hne => ?_⟩
  · exact hgrows'.isDirectory (FileTree.isDirectory_of_mem_passage hdirs hq)
  · rw [hput, if_neg hne]
    exact (hmade q).imp_right fun h => ⟨h.1, h.2.1⟩

/-- Writing a file once more changes nothing but the file. -/
theorem write_again (h : Succeeds (a.write root) t o s) (hu : s.Grows u) :
    Succeeds (a.write root) u .created
      (u.put (a.file.landing t.current root) (.file a.text)) := by
  have hwritten := written_of_write h
  obtain ⟨-, v, hdirs, hwrite⟩ := succeeds_write.1 h
  have hgrows := (FileTree.grows_writeText hwrite).trans hu
  refine succeeds_write.2 ⟨rfl, u, FileTree.createDirs_again hdirs hgrows, ?_⟩
  exact FileTree.writeText_eq_true_iff.2
    ⟨_, hu.place? hwritten.place, hu.not_isDirectory hwritten.node, rfl⟩

/-- What becomes of a file, and how. -/
theorem succeeds_produce :
    Succeeds (a.produce root) t o s ↔ o = a.outcomeIn root t ∧
      (o = .skipped ∧ t = s ∨ o = .created ∧ Succeeds (a.write root) t o s) := by
  have hwrite : ∀ {o}, Succeeds (a.write root) t o s → o = .created := fun h =>
    (succeeds_write.1 h).1
  unfold Artifact.produce Artifact.outcomeIn
  cases a.kind.isKept with
  | false =>
    constructor
    · intro h
      exact ⟨hwrite h, .inr ⟨hwrite h, h⟩⟩
    · rintro ⟨rfl, ⟨hskip, -⟩ | ⟨-, h⟩⟩
      · cases hskip
      · exact h
  | true =>
    simp only [Bool.true_and, if_true, Artifact.writeIfAbsent, succeeds_bind, succeeds_isThere]
    cases hthere : t.isThere (a.file.pathIn root) with
    | true =>
      constructor
      · rintro ⟨_, _, ⟨rfl, rfl⟩, h⟩
        obtain ⟨rfl, rfl⟩ := succeeds_pure.1 h
        exact ⟨rfl, .inl ⟨rfl, rfl⟩⟩
      · rintro ⟨rfl, ⟨-, rfl⟩ | ⟨hcreated, -⟩⟩
        · exact ⟨true, t, ⟨rfl, rfl⟩, succeeds_pure.2 ⟨rfl, rfl⟩⟩
        · cases hcreated
    | false =>
      constructor
      · rintro ⟨_, _, ⟨rfl, rfl⟩, h⟩
        exact ⟨hwrite h, .inr ⟨hwrite h, h⟩⟩
      · rintro ⟨rfl, ⟨hskip, -⟩ | ⟨-, h⟩⟩
        · cases hskip
        · exact ⟨false, t, ⟨rfl, rfl⟩, h⟩

/-- A file that is not left alone is written. -/
theorem written_of_produce (h : Succeeds (a.produce root) t o s)
    (hnew : a.kind.isKept = true → t.isThere (a.file.pathIn root) = false) :
    a.Written root t s := by
  obtain ⟨ho, ⟨rfl, -⟩ | ⟨-, hwrite⟩⟩ := succeeds_produce.1 h
  · unfold Artifact.outcomeIn at ho
    split at ho
    · next hskip =>
      rw [Bool.and_eq_true] at hskip
      rw [hnew hskip.1] at hskip
      cases hskip.2
    · cases ho
  · exact written_of_write hwrite

theorem grows_produce (h : Succeeds (a.produce root) t o s) : t.Grows s := by
  obtain ⟨-, ⟨-, rfl⟩ | ⟨-, hwrite⟩⟩ := succeeds_produce.1 h
  · exact .refl t
  · exact (written_of_write hwrite).grows

end

/-! ## Several files -/

section

variable {root : String} {artifacts : List Artifact} {t s : FileTree} {r r' : Report}

theorem succeeds_addAll_cons {a : Artifact} :
    Succeeds (r.addAll root (a :: artifacts)) t r' s ↔ ∃ o u, Succeeds (a.produce root) t o u ∧
      Succeeds ((r.record a.kind o).addAll root artifacts) u r' s := succeeds_bind

theorem grows_addAll (h : Succeeds (r.addAll root artifacts) t r' s) : t.Grows s := by
  induction artifacts generalizing r t with
  | nil =>
    obtain ⟨-, rfl⟩ := succeeds_pure.1 h
    exact .refl t
  | cons a artifacts ih =>
    obtain ⟨o, u, hproduce, hrest⟩ := succeeds_addAll_cons.1 h
    exact (grows_produce hproduce).trans (ih hrest)

theorem reached_cons {a : Artifact} {o : WriteOutcome} {u : FileTree}
    (h : Succeeds (a.produce root) t o u) :
    Artifact.reached root t (a :: artifacts) =
      (a, t) :: Artifact.reached root u artifacts := by
  rw [Artifact.reached]
  congr 2
  exact congrArg Prod.snd h

/-- The outcomes of a run are those of its files. -/
theorem outcomes_addAll (h : Succeeds (r.addAll root artifacts) t r' s) :
    r'.outcomes = r.outcomes ++ (Artifact.reached root t artifacts).map
      fun x => (x.1.kind, x.1.outcomeIn root x.2) := by
  induction artifacts generalizing r t with
  | nil =>
    obtain ⟨rfl, -⟩ := succeeds_pure.1 h
    simp [Artifact.reached]
  | cons a artifacts ih =>
    obtain ⟨o, u, hproduce, hrest⟩ := succeeds_addAll_cons.1 h
    rw [ih hrest, reached_cons hproduce, (succeeds_produce.1 hproduce).1]
    simp [Report.record]

theorem succeeds_addAll_append {second : List Artifact} :
    Succeeds (r.addAll root (artifacts ++ second)) t r' s ↔ ∃ r₁ u,
      Succeeds (r.addAll root artifacts) t r₁ u ∧ Succeeds (r₁.addAll root second) u r' s := by
  rw [addAll_append, succeeds_bind]

theorem map_fst_reached (root : String) (t : FileTree) (artifacts : List Artifact) :
    (Artifact.reached root t artifacts).map (·.1) = artifacts := by
  induction artifacts generalizing t with
  | nil => rfl
  | cons a artifacts ih => rw [Artifact.reached, List.map_cons, ih]

theorem reached_append {second : List Artifact} {u : FileTree} {r₁ : Report}
    (h : Succeeds (r.addAll root artifacts) t r₁ u) :
    Artifact.reached root t (artifacts ++ second) =
      Artifact.reached root t artifacts ++ Artifact.reached root u second := by
  induction artifacts generalizing r t with
  | nil =>
    obtain ⟨-, rfl⟩ := succeeds_pure.1 h
    rfl
  | cons a artifacts ih =>
    obtain ⟨o, v, hproduce, hrest⟩ := succeeds_addAll_cons.1 h
    rw [List.cons_append, reached_cons hproduce, reached_cons hproduce, ih hrest, List.cons_append]

theorem mem_of_mem_reached {x : Artifact × FileTree}
    (h : x ∈ Artifact.reached root t artifacts) : x.1 ∈ artifacts := by
  rw [← map_fst_reached root t artifacts]
  exact List.mem_map_of_mem h

theorem grows_of_mem_reached (h : Succeeds (r.addAll root artifacts) t r' s)
    {x : Artifact × FileTree} (hx : x ∈ Artifact.reached root t artifacts) :
    t.Grows x.2 ∧ x.2.Grows s := by
  induction artifacts generalizing r t with
  | nil => cases hx
  | cons a artifacts ih =>
    obtain ⟨o, u, hproduce, hrest⟩ := succeeds_addAll_cons.1 h
    rw [reached_cons hproduce] at hx
    rcases List.mem_cons.1 hx with rfl | hx
    · exact ⟨.refl t, grows_addAll h⟩
    · exact ⟨(grows_produce hproduce).trans (ih hrest hx).1, (ih hrest hx).2⟩

/-- A place holds what it held, or the text of a file that was created there. -/
theorem node?_addAll (h : Succeeds (r.addAll root artifacts) t r' s) {p : Place} {text : String}
    (hp : t.node? p = some (.file text)) :
    ((∀ x ∈ Artifact.reached root t artifacts, x.1.file.landing t.current root = p →
        x.1.outcomeIn root x.2 = .skipped) ∧ s.node? p = some (.file text)) ∨
      (∃ x ∈ Artifact.reached root t artifacts, x.1.file.landing t.current root = p ∧
        x.1.outcomeIn root x.2 = .created) ∧
      ∃ a ∈ artifacts, a.file.landing t.current root = p ∧ s.node? p = some (.file a.text) := by
  induction artifacts generalizing r t text with
  | nil =>
    obtain ⟨-, rfl⟩ := succeeds_pure.1 h
    exact .inl ⟨fun x hx => (List.not_mem_nil hx).elim, hp⟩
  | cons a artifacts ih =>
    obtain ⟨o, u, hproduce, hrest⟩ := succeeds_addAll_cons.1 h
    have hcurrent := (grows_produce hproduce).current
    rw [reached_cons hproduce]
    obtain ⟨ho, hcase⟩ := succeeds_produce.1 hproduce
    by_cases hwrite : o = .created ∧ a.file.landing t.current root = p
    · -- the file is written there, and the others find it
      obtain ⟨hcreated, hlanding⟩ := hwrite
      have hwritten : a.Written root t u := by
        obtain ⟨hskip, -⟩ | ⟨-, hwrite⟩ := hcase
        · rw [hskip] at hcreated
          cases hcreated
        · exact written_of_write hwrite
      have hnode := hwritten.node
      rw [hlanding] at hnode
      have hfirst : a.outcomeIn root t = .created := ho ▸ hcreated
      refine .inr ⟨⟨(a, t), List.mem_cons_self, hlanding, hfirst⟩, ?_⟩
      obtain ⟨-, hs⟩ | ⟨-, b, hb, hplace, hs⟩ := ih hrest hnode
      · exact ⟨a, List.mem_cons_self, hlanding, hs⟩
      · exact ⟨b, List.mem_cons_of_mem a hb, hcurrent ▸ hplace, hs⟩
    · have hkept : u.node? p = some (.file text) := by
        obtain ⟨-, rfl⟩ | ⟨hcreated, hwritten⟩ := hcase
        · exact hp
        · obtain hsame | ⟨-, hnone⟩ := (written_of_write hwritten).other p fun heq =>
            hwrite ⟨hcreated, heq.symm⟩
          · rw [hsame, hp]
          · rw [hp] at hnone
            cases hnone
      obtain ⟨hskip, hs⟩ | ⟨⟨x, hx, hcreated⟩, b, hb, hs⟩ := ih hrest hkept
      · refine .inl ⟨List.forall_mem_cons.2 ⟨fun heq => ?_, hcurrent ▸ hskip⟩, hs⟩
        rw [← ho]
        cases o with
        | skipped => rfl
        | created => exact absurd ⟨rfl, heq⟩ hwrite
      · exact .inr ⟨⟨x, List.mem_cons_of_mem _ hx, hcurrent ▸ hcreated⟩, b,
          List.mem_cons_of_mem a hb, hcurrent ▸ hs⟩

/-- A file that is kept is there after the run. -/
theorem isThere_addAll (h : Succeeds (r.addAll root artifacts) t r' s) {a : Artifact}
    (ha : a ∈ artifacts) : s.isThere (a.file.pathIn root) = true := by
  induction artifacts generalizing r t with
  | nil => cases ha
  | cons b artifacts ih =>
    obtain ⟨o, u, hproduce, hrest⟩ := succeeds_addAll_cons.1 h
    rcases List.mem_cons.1 ha with rfl | ha
    · refine (grows_addAll hrest).isThere ?_
      obtain ⟨ho, ⟨rfl, rfl⟩ | ⟨-, hwrite⟩⟩ := succeeds_produce.1 hproduce
      · by_contra hthere
        simp [Artifact.outcomeIn, hthere] at ho
      · have hwritten := written_of_write hwrite
        rw [FileTree.isThere, hwritten.place, Option.bind_some, hwritten.node]
        rfl
    · exact ih hrest ha

end

/-! ## Counts -/

/-- The counts of a kind are the numbers of outcomes. -/
theorem Report.counts_eq (r : Report) (kind : ArtifactKind) :
    r.counts kind =
      ⟨r.outcomes.countP (· = (kind, .created)), r.outcomes.countP (· = (kind, .skipped))⟩ := by
  have hfold : ∀ (outcomes : List (ArtifactKind × WriteOutcome)) (c : Counts),
      ((outcomes.filter (·.1 = kind)).map (·.2)).foldl Counts.add c =
        ⟨c.created + outcomes.countP (· = (kind, .created)),
          c.skipped + outcomes.countP (· = (kind, .skipped))⟩ := by
    intro outcomes
    induction outcomes with
    | nil => intro c; rfl
    | cons x outcomes ih =>
      intro c
      obtain ⟨kind', o⟩ := x
      by_cases hkind : kind' = kind
      · cases o <;> simp [hkind, ih, Counts.add] <;> omega
      · simp [hkind, ih]
  rw [Report.counts, hfold]
  simp

/-- Of the files of a kind that is kept, those are created that find nothing. -/
theorem counts_addAll {root : String} {artifacts : List Artifact} {t s : FileTree} {r r' : Report}
    (h : Succeeds (r.addAll root artifacts) t r' s) (hr : r.outcomes = []) {kind : ArtifactKind}
    (hkind : kind.isKept = true) :
    r'.counts kind =
      ⟨(Artifact.reached root t artifacts).countP fun x =>
          x.1.kind = kind && !x.2.isThere (x.1.file.pathIn root),
        (Artifact.reached root t artifacts).countP fun x =>
          x.1.kind = kind && x.2.isThere (x.1.file.pathIn root)⟩ := by
  rw [Report.counts_eq, outcomes_addAll h, hr, List.nil_append, List.countP_map, List.countP_map]
  congr 1
  all_goals
    refine List.countP_congr fun x _ => ?_
    by_cases hx : x.1.kind = kind
    · cases hthere : x.2.isThere (x.1.file.pathIn root) <;>
        simp [hx, hkind, hthere, Artifact.outcomeIn]
    · simp [hx]

/-! ## Runs -/

section

variable {classes : ClassSet} {config : Config} {root : String} {t s : FileTree} {r : Report}
  {plan : Plan}

theorem eq_ok_of_mem_toOption {ε α : Type} {result : Except ε α} {a : α}
    (h : a ∈ result.toOption) : result = .ok a := by
  cases result with
  | ok b =>
    cases h
    rfl
  | error e => cases h

theorem generate_eq_ok_iff :
    t.generate classes config root = (.ok r, s) ↔ ∃ plan, planFor classes config = .ok plan ∧
      Succeeds ((Report.addWarnings {} plan.warnings).addAll root plan.inOrder) t r s := by
  rw [FileTree.generate, generate, run_bind]
  cases hplan : planFor classes config with
  | error e =>
    constructor
    · intro h
      cases h
    · rintro ⟨plan, h, -⟩
      cases h
  | ok plan =>
    constructor
    · intro h
      exact ⟨plan, rfl, writeTo_eq root plan ▸ h⟩
    · rintro ⟨_, hplan, h⟩
      cases hplan
      rw [← writeTo_eq] at h
      exact h

/-- A run with a known plan, as it can be carried out. -/
theorem generate_eq_run {result : Except GenerationError Plan}
    (h : planFor classes config = result) :
    t.generate classes config root =
      ((ExceptT.mk (pure (result.mapError RunError.generation)) : TreeM Plan) >>=
        Plan.writeTo root).run t := by
  rw [← h]
  rfl

theorem exists_generate_eq (h : (t.generate classes config root).1.toOption.isSome = true) :
    ∃ r, t.generate classes config root = (.ok r, (t.generate classes config root).2) := by
  obtain ⟨r, hr⟩ := Option.isSome_iff_exists.1 h
  exact ⟨r, Prod.ext (eq_ok_of_mem_toOption hr) rfl⟩

/-- A run without a plan leaves everything as it is. -/
theorem generate_of_error {e : GenerationError} (h : planFor classes config = .error e)
    (t : FileTree) : t.generate classes config root = (.error (.generation e), t) := by
  rw [FileTree.generate, generate, run_bind, h]
  rfl

/-- A plan has an entity and a field interface for each root. -/
theorem length_of_planFor (h : planFor classes config = .ok plan) :
    plan.entities.length = (ClassGraph.build classes config).roots.length ∧
      plan.fields.length = (ClassGraph.build classes config).roots.length := by
  obtain ⟨planned, hplanned, hentities, hfields, -⟩ := ClassGraph.plan_ok (plan_of_planFor h)
  rw [hentities, hfields, List.length_map, List.length_map, hplanned.length_eq]
  exact ⟨rfl, rfl⟩

/-- How many files of each kind a plan has. -/
theorem countP_inOrder (plan : Plan) :
    plan.inOrder.countP (·.kind = .entity) = plan.entities.length ∧
      plan.inOrder.countP (·.kind = .fields) = plan.fields.length := by
  have hentity : ∀ t : EntityTree, t.artifact.kind = .entity := fun _ => rfl
  have hfields : ∀ t : FieldsTree, t.artifact.kind = .fields := fun _ => rfl
  have hfactory : plan.factory.artifact.kind = .factory := rfl
  have hprovider : plan.providerInterface.artifact.kind = .fieldProvider := rfl
  simp [Plan.inOrder, Function.comp_def, hentity, hfields, hfactory, hprovider]

/-- Of the files of a kind that is kept, each is counted once. -/
theorem counts_total {kind : ArtifactKind}
    (hplan : planFor classes config = .ok plan)
    (h : Succeeds ((Report.addWarnings {} plan.warnings).addAll root plan.inOrder) t r s)
    (hkind : kind.isKept = true) :
    (r.counts kind).created + (r.counts kind).skipped =
      (ClassGraph.build classes config).roots.length := by
  obtain ⟨hentities, hfields⟩ := length_of_planFor hplan
  obtain ⟨hentity, hfield⟩ := countP_inOrder plan
  have hall : (Artifact.reached root t plan.inOrder).countP (fun x => x.1.kind = kind) =
      plan.inOrder.countP (·.kind = kind) := by
    conv_rhs => rw [← map_fst_reached root t plan.inOrder, List.countP_map]
    rfl
  rw [counts_addAll h rfl hkind]
  dsimp only
  rw [← List.countP_filter, ← List.countP_filter, Nat.add_comm,
    ← List.countP_eq_countP_filter_add, hall]
  cases kind with
  | entity => rw [hentity, hentities]
  | fields => rw [hfield, hfields]
  | factory => cases hkind
  | fieldProvider => cases hkind

/-- Of the files of a kind that is kept, all are created exactly if each finds nothing. -/
theorem counts_eq_iff (hplan : planFor classes config = .ok plan)
    (h : Succeeds ((Report.addWarnings {} plan.warnings).addAll root plan.inOrder) t r s)
    (kind : ArtifactKind) (hkind : kind.isKept = true) :
    r.counts kind = ⟨(ClassGraph.build classes config).roots.length, 0⟩ ↔
      ∀ x ∈ Artifact.reached root t plan.inOrder, x.1.kind = kind →
        x.2.isThere (x.1.file.pathIn root) = false := by
  have hskipped : (r.counts kind).skipped = 0 ↔
      ∀ x ∈ Artifact.reached root t plan.inOrder, x.1.kind = kind →
        x.2.isThere (x.1.file.pathIn root) = false := by
    rw [counts_addAll h rfl hkind, List.countP_eq_zero]
    simp
  have htotal := counts_total hplan h hkind
  rw [← hskipped]
  constructor
  · intro heq
    rw [heq]
  · intro heq
    rw [heq, Nat.add_zero] at htotal
    rw [← htotal, ← heq]

/-- The plan for classes of which `roots` are generated, in order of their names already. -/
def planOf (classes : ClassSet) (config : Config) (roots : List StubClass) :
    Except GenerationError Plan :=
  let g := ClassGraph.build classes config
  let planned := g.planClasses roots
  planned.result.map fun classes => g.assemble classes planned.warnings planned.logged

theorem planFor_eq_planOf {roots : List StubClass} (hfault : config.fault? = none)
    (hroots : classes.topLevel.filter (ClassGraph.build classes config).isEligible = roots)
    (hsorted : roots.Pairwise fun a b => a.qualifiedName ≤ b.qualifiedName) :
    planFor classes config = planOf classes config roots := by
  rw [planFor, ClassGraph.make, Config.validate, hfault]
  change (ClassGraph.build classes config).plan = _
  rw [ClassGraph.plan, ClassGraph.roots_eq hroots hsorted]
  rfl

end

/-- An output directory with nothing in it. -/
def emptyOutput : FileTree := ⟨[(["out"], .directory)], []⟩

theorem wellFormed_emptyOutput : emptyOutput.WellFormed := .of_nodes (by decide)

end EntityGen
