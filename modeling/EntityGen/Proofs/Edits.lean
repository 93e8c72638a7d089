import EntityGen.Generate
import EntityGen.Proofs.Files
import EntityGen.Proofs.Plan.Basic

/-! # Edited files

What a file below the output directory goes through in any number of runs, each with a model and a
configuration of its own, on a disk that may fail in the middle of any of them.

* `edits_survive`: the file is as it was after all of them, if no run has it as its factory or its
  common interface, or leads to it on a path that goes up and did not lead to it at first.
* `SourceFile.isStraight_of_notMem`: no path goes up unless a class has a separator in its name.
* `edits_lost`: a path that goes up out of a missing directory loses the file. Nothing is at the
  path until the directory is made for the new file, and then it leads to the file that was edited.
* `agrees_generate`: on a disk that does not fail, a run does what it does to a tree of files. -/

namespace EntityGen

/-! ## Work that may end early -/

/-- Work on a disk that may end early. -/
abbrev DiskM := ExceptT RunError (StateM Disk)

/-- Work on a tree of files that may end early. -/
abbrev TreeM := ExceptT RunError (StateM FileTree)

theorem run_bind {α β σ : Type} (x : ExceptT RunError (StateM σ) α)
    (f : α → ExceptT RunError (StateM σ) β) (s : σ) :
    (x >>= f).run s = match x.run s with
      | (.ok a, s') => (f a).run s'
      | (.error e, s') => (.error e, s') := by
  change (ExceptT.bindCont f (x.run s).1) (x.run s).2 = _
  cases x.run s with
  | mk a s' => cases a <;> rfl

/-! ## Disks that do not fail -/

/-- On a disk that does not fail, `x` comes to what `y` comes to, and leaves the same files. -/
def Agrees {α : Type} (x : DiskM α) (y : TreeM α) : Prop :=
  ∀ t : FileTree, x.run ⟨t, []⟩ = ((y.run t).1, ⟨(y.run t).2, []⟩)

section

variable {α β : Type} {root : String}

theorem agrees_pure (a : α) : Agrees (pure a) (pure a) := fun _ => rfl

theorem agrees_throw (e : RunError) : Agrees (throw e : DiskM α) (throw e) := fun _ => rfl

theorem Agrees.bind {x : DiskM α} {y : TreeM α} {f : α → DiskM β} {k : α → TreeM β}
    (hx : Agrees x y) (hf : ∀ a, Agrees (f a) (k a)) : Agrees (x >>= f) (y >>= k) := by
  intro t
  rw [run_bind, run_bind, hx t]
  generalize y.run t = result
  obtain ⟨a, t'⟩ := result
  cases a with
  | ok a => exact hf a t'
  | error e => rfl

theorem agrees_isThere (path : String) :
    Agrees (FileAccess.isThere path) (FileAccess.isThere path) := fun _ => rfl

theorem agrees_createDirs (path : String) :
    Agrees (FileAccess.createDirs path) (FileAccess.createDirs path) := fun _ => rfl

theorem agrees_writeText (path text : String) :
    Agrees (FileAccess.writeText path text) (FileAccess.writeText path text) := fun _ => rfl

/-- An operation that fails ends the work. -/
theorem Agrees.orThrow {x : DiskM Bool} {y : TreeM Bool} {k : DiskM β} {k' : TreeM β}
    (hx : Agrees x y) (e : RunError) (hk : Agrees k k') :
    Agrees (x >>= fun done => if !done then (throw e : DiskM Unit) >>= fun _ => k else k)
      (y >>= fun done => if !done then (throw e : TreeM Unit) >>= fun _ => k' else k') := by
  refine hx.bind fun done => ?_
  cases done with
  | true => exact hk
  | false => exact (agrees_throw e).bind fun _ => hk

theorem agrees_write (a : Artifact) : Agrees (a.write root) (a.write root) := by
  unfold Artifact.write
  dsimp only
  exact (agrees_createDirs _).orThrow _ ((agrees_writeText _ _).orThrow _ (agrees_pure _))

theorem agrees_writeIfAbsent (a : Artifact) :
    Agrees (a.writeIfAbsent root) (a.writeIfAbsent root) := by
  refine (agrees_isThere _).bind fun isThere => ?_
  cases isThere with
  | true => exact agrees_pure _
  | false => exact agrees_write a

theorem agrees_addAbsent (artifacts : List Artifact) (r : Report) :
    Agrees (r.addAbsent root artifacts) (r.addAbsent root artifacts) := by
  induction artifacts generalizing r with
  | nil => exact agrees_pure r
  | cons a artifacts ih => exact (agrees_writeIfAbsent a).bind fun _ => ih _

theorem agrees_addWritten (a : Artifact) (r : Report) :
    Agrees (r.addWritten root a) (r.addWritten root a) :=
  (agrees_write a).bind fun _ => agrees_pure _

theorem agrees_writeTo (plan : Plan) : Agrees (plan.writeTo root) (plan.writeTo root) :=
  (agrees_addAbsent _ _).bind fun r => (agrees_addWritten _ r).bind fun r =>
    (agrees_addAbsent _ r).bind fun r => agrees_addWritten _ r

theorem agrees_generate (classes : ClassSet) (config : Config) (root : String) :
    Agrees (generate classes config root) (generate classes config root) :=
  Agrees.bind (fun _ => rfl) agrees_writeTo

end

/-! ## What a run keeps -/

section

variable {α β : Type} {I : FileTree → Prop}

/-- What holds of the tree before some work holds of it afterwards. -/
def Keeps (I : FileTree → Prop) (x : DiskM α) : Prop :=
  ∀ d : Disk, I d.tree → I (x.run d).2.tree

theorem keeps_pure (a : α) : Keeps I (pure a : DiskM α) := fun _ h => h

theorem keeps_throw (e : RunError) : Keeps I (throw e : DiskM α) := fun _ h => h

theorem Keeps.bind {x : DiskM α} {f : α → DiskM β} (hx : Keeps I x)
    (hf : ∀ a, Keeps I (f a)) : Keeps I (x >>= f) := by
  intro d hd
  have hd' := hx d hd
  rw [run_bind]
  generalize x.run d = result at hd'
  obtain ⟨a, d'⟩ := result
  cases a with
  | ok a => exact hf a d' hd'
  | error e => exact hd'

/-- A change may be made in full, in part or not at all. -/
theorem holds_change {d : Disk} {whole : FileTree × Bool} {part : Nat → FileTree}
    (htree : I d.tree) (hwhole : I whole.1) (hpart : ∀ progress, I (part progress)) :
    I (d.change whole part).2.tree := by
  unfold Disk.change
  split
  · exact htree
  · exact hpart _
  · exact hwhole

/-- An operation that fails ends the work. -/
theorem Keeps.orThrow {x : DiskM Bool} {k : DiskM β} (hx : Keeps I x) (e : RunError)
    (hk : Keeps I k) :
    Keeps I (x >>= fun done => if !done then (throw e : DiskM Unit) >>= fun _ => k else k) := by
  refine hx.bind fun done => ?_
  cases done with
  | true => exact hk
  | false => exact (keeps_throw e).bind fun _ => hk

end

namespace SourceFile

/-- Where the file lies below the directory at `base`. -/
def destination (base : Place) (f : SourceFile) : Place :=
  Path.lead (if Path.isAbsolute f.relativePath then [] else base) (Path.pieces f.relativePath)

/-- The path of the file never goes up. -/
def IsStraight (f : SourceFile) : Prop := ".." ∉ Path.pieces f.relativePath

instance (f : SourceFile) : Decidable f.IsStraight := by
  unfold IsStraight
  infer_instance

/-- A path goes up only if the name of the type has a separator in it: the parts of a package have
no dots. -/
theorem isStraight_of_notMem {f : SourceFile} (h : Path.separator ∉ f.typeName.toList) :
    f.IsStraight := by
  intro hup
  rcases Path.mem_pieces_of_push hup with hup | hup
  · obtain hup | ⟨part, hpart, hup⟩ := Path.mem_pieces_of_ofPieces hup
    · simp at hup
    · obtain ⟨cs, hcs, rfl⟩ := List.mem_map.1 hpart
      obtain ⟨piece, hpiece, heq⟩ := List.mem_map.1 hup
      rw [String.toList_ofList] at hpiece
      have hdot : '.' ∈ piece := by
        rw [← String.toList_ofList (l := piece), heq]
        decide
      exact Text.notMem_of_mem_split (List.mem_filter.1 hcs).1 (Text.mem_of_mem_split hpiece hdot)
  · rw [Path.pieces_of_notMem (by simpa [Path.separator] using h), List.mem_singleton] at hup
    have hlast := congrArg (·.toList.getLast?) hup
    simp at hlast

/-- If the file lies at `p`, it is found there: its path led there in the first tree already, or it
never goes up. -/
def IsFound (first : FileTree) (root : String) (base p : Place) (f : SourceFile) : Prop :=
  f.destination base = p → f.IsStraight ∨ first.place? (f.pathIn root) = some p

instance (first : FileTree) (root : String) (base p : Place) (f : SourceFile) :
    Decidable (f.IsFound first root base p) := by
  unfold IsFound
  infer_instance

end SourceFile

section

variable {first : FileTree} {root : String} {base p : Place} {text : String} {a : Artifact}

theorem keeps_createDirs (path : String) :
    Keeps (·.Guards first p text) (FileAccess.createDirs path : DiskM Bool) := by
  intro d h
  exact holds_change (I := (·.Guards first p text)) h (h.createDirs path) (h.createSome path)

/-- A path spares the file if it does not lead to it in any tree that has the file. -/
def Spares (first : FileTree) (p : Place) (text path : String) : Prop :=
  ∀ t : FileTree, t.Guards first p text → t.place? path ≠ some p

theorem keeps_writeText {path : String} (hpath : Spares first p text path) (new : String) :
    Keeps (·.Guards first p text) (FileAccess.writeText path new : DiskM Bool) := by
  intro d h
  exact holds_change (I := (·.Guards first p text)) h (h.writeText (hpath _ h) new) fun _ =>
    h.writeText (hpath _ h) _

theorem keeps_write (hpath : Spares first p text (a.file.pathIn root)) :
    Keeps (·.Guards first p text) (a.write root : DiskM WriteOutcome) := by
  unfold Artifact.write
  dsimp only
  exact (keeps_createDirs _).orThrow _ ((keeps_writeText hpath a.text).orThrow _ (keeps_pure _))

variable (hroot : first.follow? (first.start root) (Path.pieces root) = some base)
include hroot

theorem spares_of_destination_ne (h : a.file.destination base ≠ p) :
    Spares first p text (a.file.pathIn root) := by
  intro t ht hplace
  exact h (ht.eq_lead_of_place? hroot hplace).symm

/-- Where nothing is at the path of a file that is found at `p`, the path leads elsewhere. -/
theorem spares_of_not_isThere {t : FileTree} (ht : t.Guards first p text)
    (h : a.file.IsFound first root base p) (hthere : t.isThere (a.file.pathIn root) = false) :
    Spares first p text (a.file.pathIn root) := by
  intro t' ht' hplace
  -- what leads there once directories were made leads there now, where nothing is
  have hp : t.place? (a.file.pathIn root) = some p := by
    rcases h (ht'.eq_lead_of_place? hroot hplace).symm with hstraight | hfirst
    · exact ht.place?_of_straight hroot ht' hstraight hplace
    · exact ht.place? hfirst
  rw [ht.isThere hp] at hthere
  cases hthere

theorem keeps_writeIfAbsent (h : a.file.IsFound first root base p) :
    Keeps (·.Guards first p text) (a.writeIfAbsent root : DiskM WriteOutcome) := by
  intro d hd
  rw [Artifact.writeIfAbsent, run_bind]
  change ((if d.tree.isThere (a.file.pathIn root) then pure WriteOutcome.skipped
    else a.write root : DiskM WriteOutcome).run d).2.tree.Guards first p text
  cases hthere : d.tree.isThere (a.file.pathIn root) with
  | true => exact hd
  | false => exact keeps_write (spares_of_not_isThere hroot hd h hthere) d hd

theorem keeps_addAbsent {artifacts : List Artifact}
    (h : ∀ a ∈ artifacts, a.file.IsFound first root base p) (r : Report) :
    Keeps (·.Guards first p text) (r.addAbsent root artifacts : DiskM Report) := by
  induction artifacts generalizing r with
  | nil => exact keeps_pure r
  | cons a artifacts ih =>
    refine (keeps_writeIfAbsent hroot (h a List.mem_cons_self)).bind fun outcome => ?_
    exact ih (fun a ha => h a (List.mem_cons_of_mem _ ha)) _

theorem keeps_addWritten (h : a.file.destination base ≠ p) (r : Report) :
    Keeps (·.Guards first p text) (r.addWritten root a : DiskM Report) :=
  (keeps_write (spares_of_destination_ne hroot h)).bind fun _ => keeps_pure _

end

/-- The files of a plan spare a file: those that are written anew each time lie elsewhere, and any
other that lies there is found. -/
structure Plan.Spares (plan : Plan) (first : FileTree) (root : String) (base p : Place) : Prop where
  factory : plan.factory.artifact.file.destination base ≠ p
  provider : plan.providerInterface.artifact.file.destination base ≠ p
  entities : ∀ t ∈ plan.entities, t.artifact.file.IsFound first root base p
  fields : ∀ t ∈ plan.fields, t.artifact.file.IsFound first root base p

section

variable {first : FileTree} {root : String} {base p : Place} {text : String}
variable (hroot : first.follow? (first.start root) (Path.pieces root) = some base)
include hroot

theorem keeps_writeTo {plan : Plan} (h : plan.Spares first root base p) :
    Keeps (·.Guards first p text) (plan.writeTo root : DiskM Report) := by
  have hentities : ∀ a ∈ plan.entities.map EntityTree.artifact,
      a.file.IsFound first root base p := List.forall_mem_map.2 h.entities
  have hfields : ∀ a ∈ plan.fields.map FieldsTree.artifact,
      a.file.IsFound first root base p := List.forall_mem_map.2 h.fields
  refine (keeps_addAbsent hroot hentities _).bind fun r => ?_
  refine (keeps_addWritten hroot h.provider r).bind fun r => ?_
  refine (keeps_addAbsent hroot hfields r).bind fun r => ?_
  exact keeps_addWritten hroot h.factory r

theorem keeps_generate {classes : ClassSet} {config : Config}
    (h : ∀ plan, planFor classes config = .ok plan → plan.Spares first root base p) :
    Keeps (·.Guards first p text) (generate classes config root : DiskM Report) := by
  intro d hd
  rw [generate, run_bind]
  cases hplan : planFor classes config with
  | error e => exact hd
  | ok plan => exact keeps_writeTo hroot (h plan hplan) d hd

end

/-! ## Histories -/

/-- The disk after several runs below `root`, whatever they came to. -/
def Disk.afterRuns (root : String) (d : Disk) (runs : List (ClassSet × Config)) : Disk :=
  runs.foldl (fun d run => ((generate run.1 run.2 root : DiskM Report).run d).2) d

/-- The tree of files after several runs below `root`, whatever they came to. -/
def FileTree.afterRuns (root : String) (t : FileTree) (runs : List (ClassSet × Config)) :
    FileTree :=
  runs.foldl (fun t run => (t.generate run.1 run.2 root).2) t

theorem Disk.afterRuns_faultless (root : String) (t : FileTree)
    (runs : List (ClassSet × Config)) :
    (⟨t, []⟩ : Disk).afterRuns root runs = ⟨t.afterRuns root runs, []⟩ := by
  induction runs generalizing t with
  | nil => rfl
  | cons run runs ih =>
    rw [Disk.afterRuns, List.foldl_cons, agrees_generate run.1 run.2 root t]
    exact ih _

section

variable {first : FileTree} {root : String} {base p : Place} {text : String}
  {runs : List (ClassSet × Config)}
variable (hroot : first.follow? (first.start root) (Path.pieces root) = some base)
  (hruns : ∀ run ∈ runs, ∀ plan, planFor run.1 run.2 = .ok plan → plan.Spares first root base p)
include hroot hruns

theorem guards_afterRuns {d : Disk} (h : d.tree.Guards first p text) :
    (d.afterRuns root runs).tree.Guards first p text := by
  induction runs generalizing d with
  | nil => exact h
  | cons run runs ih =>
    have hrun := keeps_generate hroot (hruns run List.mem_cons_self) d h
    exact ih (fun other hother => hruns other (List.mem_cons_of_mem run hother)) hrun

theorem edits_survive (hfirst : first.WellFormed) (hfile : first.node? p = some (.file text)) :
    (∀ faults, ((⟨first, faults⟩ : Disk).afterRuns root runs).tree.node? p = some (.file text)) ∧
      (first.afterRuns root runs).node? p = some (.file text) := by
  have hdisk : ∀ faults,
      ((⟨first, faults⟩ : Disk).afterRuns root runs).tree.node? p = some (.file text) := by
    intro faults
    have hguards : FileTree.Guards (Disk.tree ⟨first, faults⟩) first p text := .refl hfirst hfile
    exact (guards_afterRuns hroot hruns hguards).file
  refine ⟨hdisk, ?_⟩
  have htree := hdisk []
  rwa [Disk.afterRuns_faultless] at htree

end

/-! ## A class whose path goes up -/

/-- One class, of the unnamed package. -/
def single (name : String) : ClassSet :=
  ⟨ClassDef.layoutAll none 0 [⟨"", name, false, none, [], [], []⟩]⟩

/-- Short packages for what is shared. -/
def shortPackages : Config := { factoryPackage := "f", fieldsPackage := "p" }

/-- An output directory with an entity that was edited. -/
def edited : FileTree :=
  ⟨[(["out"], .directory), (["out", "KeepJPA.java"], .file "edited by hand")], []⟩

theorem wellFormed_edited : edited.WellFormed := .of_nodes (by decide)

/-- The names of a class with this entity, one on a path that goes up. -/
def keepNames : List String := ["Keep", "new/../Keep"]

/-- The plan for such a class. -/
def planSingle (name : String) : Except GenerationError Plan :=
  let g := ClassGraph.build (single name) shortPackages
  let planned := g.planClasses (single name).classes
  planned.result.map fun classes => g.assemble classes planned.warnings planned.logged

theorem planFor_single {name : String} (h : name ∈ keepNames) :
    planFor (single name) shortPackages = planSingle name := by
  have hfault : shortPackages.fault? = none := by decide
  have heligible : ∀ name ∈ keepNames, (single name).topLevel.filter
      (ClassGraph.build (single name) shortPackages).isEligible = (single name).classes := by decide
  have hsorted : (single name).classes.Pairwise fun a b => a.qualifiedName ≤ b.qualifiedName :=
    List.pairwise_singleton _ _
  have hroots : (ClassGraph.build (single name) shortPackages).roots = (single name).classes :=
    ClassGraph.roots_eq (heligible name h) hsorted
  rw [planFor, ClassGraph.make, Config.validate, hfault]
  change (ClassGraph.build (single name) shortPackages).plan = _
  rw [ClassGraph.plan, hroots]
  rfl

theorem exists_plan_single {name : String} (h : name ∈ keepNames) :
    ∃ plan, planFor (single name) shortPackages = .ok plan ∧
      plan.factory.artifact.file.destination ["out"] ≠ ["out", "KeepJPA.java"] ∧
      plan.providerInterface.artifact.file.destination ["out"] ≠ ["out", "KeepJPA.java"] ∧
      plan.entities.map (·.artifact.file.typeName) = [name ++ "JPA"] ∧
      plan.fields.map (·.artifact.file.typeName) = [name ++ "Fields"] := by
  have hall : ∀ name ∈ keepNames, ∃ plan ∈ (planSingle name).toOption,
      plan.factory.artifact.file.destination ["out"] ≠ ["out", "KeepJPA.java"] ∧
      plan.providerInterface.artifact.file.destination ["out"] ≠ ["out", "KeepJPA.java"] ∧
      plan.entities.map (·.artifact.file.typeName) = [name ++ "JPA"] ∧
      plan.fields.map (·.artifact.file.typeName) = [name ++ "Fields"] := by decide +kernel
  obtain ⟨plan, hmem, hplan⟩ := hall name h
  refine ⟨plan, ?_, hplan⟩
  rw [planFor_single h]
  cases hresult : planSingle name with
  | error e =>
    rw [hresult] at hmem
    cases hmem
  | ok plan' =>
    rw [hresult] at hmem
    cases hmem
    rfl

/-- A second run is no different from the first. -/
theorem edits_survive_second_run : edited.WellFormed ∧
    (∃ plan, planFor (single "Keep") shortPackages = .ok plan ∧
      plan.Spares edited "out" ["out"] ["out", "KeepJPA.java"]) ∧
    (edited.afterRuns "out" [(single "Keep", shortPackages), (single "Keep", shortPackages)]).node?
      ["out", "KeepJPA.java"] = some (.file "edited by hand") := by
  obtain ⟨plan, hplan, hfactory, hprovider, hentities, hfields⟩ :=
    exists_plan_single (List.mem_cons_self : "Keep" ∈ keepNames)
  have hstraight : ∀ name ∈ ["KeepJPA", "KeepFields"], Path.separator ∉ name.toList := by decide
  have hspares : plan.Spares edited "out" ["out"] ["out", "KeepJPA.java"] := by
    refine ⟨hfactory, hprovider, fun t ht _ => .inl ?_, fun t ht _ => .inl ?_⟩
    · have hname := List.mem_map_of_mem (f := (·.artifact.file.typeName)) ht
      rw [hentities, List.mem_singleton] at hname
      exact SourceFile.isStraight_of_notMem (hstraight _ (by simp [hname]))
    · have hname := List.mem_map_of_mem (f := (·.artifact.file.typeName)) ht
      rw [hfields, List.mem_singleton] at hname
      exact SourceFile.isStraight_of_notMem (hstraight _ (by simp [hname]))
  have hruns : ∀ run ∈ [(single "Keep", shortPackages), (single "Keep", shortPackages)],
      ∀ plan, planFor run.1 run.2 = .ok plan →
        plan.Spares edited "out" ["out"] ["out", "KeepJPA.java"] := by
    intro run hrun plan' hplan'
    have hrun' : run = (single "Keep", shortPackages) := by simpa using hrun
    rw [hrun', hplan] at hplan'
    cases hplan'
    exact hspares
  exact ⟨wellFormed_edited, ⟨plan, hplan, hspares⟩,
    (edits_survive (by decide) hruns wellFormed_edited (by decide)).2⟩

/-- The path goes up out of a directory that is made for it. -/
theorem edits_lost : edited.WellFormed ∧
    edited.follow? (edited.start "out") (Path.pieces "out") = some ["out"] ∧
    edited.node? ["out", "KeepJPA.java"] = some (.file "edited by hand") ∧
    (∃ plan, planFor (single "new/../Keep") shortPackages = .ok plan ∧
      plan.factory.artifact.file.destination ["out"] ≠ ["out", "KeepJPA.java"] ∧
      plan.providerInterface.artifact.file.destination ["out"] ≠ ["out", "KeepJPA.java"]) ∧
    (edited.afterRuns "out" [(single "new/../Keep", shortPackages)]).node?
      ["out", "KeepJPA.java"] ≠ some (.file "edited by hand") := by
  have hname : "new/../Keep" ∈ keepNames := by decide
  obtain ⟨plan, hplan, hfactory, hprovider, -⟩ := exists_plan_single hname
  refine ⟨wellFormed_edited, by decide, by decide, ⟨plan, hplan, hfactory, hprovider⟩, ?_⟩
  change (edited.generate (single "new/../Keep") shortPackages "out").2.node?
    ["out", "KeepJPA.java"] ≠ some (.file "edited by hand")
  rw [FileTree.generate, generate, planFor_single hname]
  decide +kernel

end EntityGen
