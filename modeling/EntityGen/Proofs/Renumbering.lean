import EntityGen.Field.Resolver
import EntityGen.Proofs.ClassSet

/-! # Class sets that differ in their numbers

The order of a model's definitions decides which number each class has, and nothing else: other
orders have the same classes with other numbers (`ofDefs_perm`). Between such class sets
(`ClassSet.Renumbered`) every way from one class to another leads to the same class, renumbered:
`find?`, `nestedOf`, `enclosingOf`, `owners`, `outermost`. What has no numbers in it is the same. -/

namespace EntityGen

/-! ## Renumbered classes -/

namespace StubClass

/-- The class with each number in it replaced. -/
def renumber (f : Nat → Nat) (c : StubClass) : StubClass :=
  { c with id := f c.id, enclosing := c.enclosing.map f, nested := c.nested.map f }

/-- The numbers in a class: its own, its owner's and those of the classes in it. -/
def numbers (c : StubClass) : List Nat := c.id :: (c.enclosing.toList ++ c.nested)

variable {f g : Nat → Nat} {c : StubClass}

theorem renumber_congr (h : ∀ n ∈ c.numbers, f n = g n) : c.renumber f = c.renumber g := by
  have hid : f c.id = g c.id := h _ List.mem_cons_self
  have henclosing : c.enclosing.map f = c.enclosing.map g := by
    cases ho : c.enclosing with
    | none => rfl
    | some o => exact congrArg some (h o (by simp [numbers, ho]))
  have hnested : c.nested.map f = c.nested.map g :=
    List.map_congr_left fun n hn => h n (by simp [numbers, hn])
  rw [renumber, renumber, hid, henclosing, hnested]

theorem renumber_renumber (f g : Nat → Nat) (c : StubClass) :
    (c.renumber f).renumber g = c.renumber (g ∘ f) := by
  simp [renumber]

theorem map_renumber_self (cs : List StubClass) : cs.map (renumber fun n => n) = cs := by
  have hself : renumber (fun n => n) = fun c => c := funext fun c => by simp [renumber]
  rw [hself, List.map_id']

@[simp] theorem qualifiedName_renumber (f : Nat → Nat) (c : StubClass) :
    (c.renumber f).qualifiedName = c.qualifiedName := rfl

@[simp] theorem isNested_renumber (f : Nat → Nat) (c : StubClass) :
    (c.renumber f).isNested = c.isNested := by
  simp [isNested, renumber]

end StubClass

/-! ## Layouts in another order -/

namespace ClassDef

theorem idsFrom_add (k id : Nat) (ds : List ClassDef) :
    idsFrom (id + k) ds = (idsFrom id ds).map (· + k) := by
  induction ds generalizing id with
  | nil => rfl
  | cons d ds ih =>
    rw [idsFrom, idsFrom, List.map_cons, ← ih, Nat.add_right_comm]

theorem classAt_add (d : ClassDef) (owner : Option StubClass) (k id : Nat) :
    d.classAt (owner.map (StubClass.renumber (· + k))) (id + k) =
      (d.classAt owner id).renumber (· + k) := by
  have hnested : idsFrom (id + k + 1) d.nested = (idsFrom (id + 1) d.nested).map (· + k) := by
    rw [← idsFrom_add, Nat.add_right_comm]
  cases owner with
  | none => simp [classAt, names, StubClass.renumber, hnested]
  | some o => simp [classAt, names, StubClass.renumber, hnested]

mutual

theorem layout_add (k : Nat) (owner : Option StubClass) (id : Nat) : ∀ d : ClassDef,
    d.layout (owner.map (StubClass.renumber (· + k))) (id + k) =
      (d.layout owner id).map (StubClass.renumber (· + k))
  | ⟨package, name, isInterface, superclass, fields, methods, nested⟩ => by
    have hnested := layoutAll_add k
      (some (classAt ⟨package, name, isInterface, superclass, fields, methods, nested⟩ owner id))
      (id + 1) nested
    rw [layout, layout, List.map_cons, classAt_add, ← hnested, Nat.add_right_comm]
    rfl

/-- Definitions laid out from another number on have the same classes, with numbers as far off. -/
theorem layoutAll_add (k : Nat) (owner : Option StubClass) (id : Nat) : ∀ ds : List ClassDef,
    layoutAll (owner.map (StubClass.renumber (· + k))) (id + k) ds =
      (layoutAll owner id ds).map (StubClass.renumber (· + k))
  | [] => rfl
  | d :: ds => by
    rw [layoutAll, layoutAll, List.map_append, layout_add k owner id d, Nat.add_right_comm,
      layoutAll_add k owner (id + d.size) ds]

end

theorem exists_layout_renumber (d : ClassDef) (id id' : Nat) :
    ∃ f, d.layout none id' = (d.layout none id).map (StubClass.renumber f) := by
  have hat : ∀ id, d.layout none id = (d.layout none 0).map (StubClass.renumber (· + id)) :=
    fun id => by rw [← layout_add id none 0 d, Nat.zero_add]; rfl
  refine ⟨fun n => n - id + id', ?_⟩
  rw [hat id', hat id, List.map_map]
  refine List.map_congr_left fun c _ => ?_
  rw [Function.comp_apply, StubClass.renumber_renumber]
  exact StubClass.renumber_congr fun n _ => by simp

/-- Definitions on top use their own numbers only. -/
theorem mem_numbers_layoutAll {id : Nat} {ds : List ClassDef} {c : StubClass}
    (hc : c ∈ layoutAll none id ds) {n : Nat} (hn : n ∈ c.numbers) :
    id ≤ n ∧ n < id + sizeAll ds := by
  have hid : ∀ d ∈ layoutAll none id ds, id ≤ d.id ∧ d.id < id + sizeAll ds := by
    intro d hd
    have hmem := List.mem_map_of_mem (f := (·.id)) hd
    rwa [ids_layoutAll, List.mem_range'_1] at hmem
  rcases List.mem_cons.1 hn with rfl | hn
  · exact hid c hc
  · rcases List.mem_append.1 hn with hn | hn
    · rcases layoutAll_owned none id ds hc with ⟨m, -, d, rfl⟩ | ⟨o, ho, hco, -⟩
      · cases hn
      · rw [hco.enclosing] at hn
        rw [List.mem_singleton.1 hn]
        exact hid o ho
    · obtain ⟨d, hd, rfl, -⟩ := (layoutAll_nested none id ds hc).2 n hn
      exact hid d hd

theorem mem_numbers_layout {id : Nat} {d : ClassDef} {c : StubClass} (hc : c ∈ d.layout none id)
    {n : Nat} (hn : n ∈ c.numbers) : id ≤ n ∧ n < id + d.size := by
  have hone : layoutAll none id [d] = d.layout none id := by
    rw [layoutAll, layoutAll, List.append_nil]
  have hsize : sizeAll [d] = d.size := by rw [sizeAll, sizeAll, Nat.add_zero]
  rw [← hone] at hc
  have h := mem_numbers_layoutAll hc hn
  rwa [hsize] at h

/-- Two parts with numbers below and from `k` on are renumbered independently. -/
theorem exists_renumber_append {as as' bs bs' : List StubClass} {f g : Nat → Nat} {k : Nat}
    (has : ∀ c ∈ as, ∀ n ∈ c.numbers, n < k) (hbs : ∀ c ∈ bs, ∀ n ∈ c.numbers, k ≤ n)
    (ha : as'.Perm (as.map (StubClass.renumber f)))
    (hb : bs'.Perm (bs.map (StubClass.renumber g))) :
    ∃ e, (as' ++ bs').Perm ((as ++ bs).map (StubClass.renumber e)) := by
  refine ⟨fun n => if n < k then f n else g n, ?_⟩
  have hleft : as.map (StubClass.renumber fun n => if n < k then f n else g n) =
      as.map (StubClass.renumber f) :=
    List.map_congr_left fun c hc => StubClass.renumber_congr fun n hn => if_pos (has c hc n hn)
  have hright : bs.map (StubClass.renumber fun n => if n < k then f n else g n) =
      bs.map (StubClass.renumber g) :=
    List.map_congr_left fun c hc =>
      StubClass.renumber_congr fun n hn => if_neg (Nat.not_lt.2 (hbs c hc n hn))
  rw [List.map_append, hleft, hright]
  exact ha.append hb

/-- The classes of definitions in another order are the same up to their numbers. -/
theorem exists_layoutAll_renumber {ds ds' : List ClassDef} (h : ds.Perm ds') :
    ∀ id, ∃ f,
      (layoutAll none id ds').Perm ((layoutAll none id ds).map (StubClass.renumber f)) := by
  induction h with
  | nil => exact fun id => ⟨fun n => n, .nil⟩
  | cons d h ih =>
    intro id
    obtain ⟨f, hf⟩ := ih (id + d.size)
    have hfirst : d.layout none id = (d.layout none id).map (StubClass.renumber fun n => n) :=
      (StubClass.map_renumber_self _).symm
    rw [layoutAll, layoutAll]
    exact exists_renumber_append (fun c hc n hn => (mem_numbers_layout hc hn).2)
      (fun c hc n hn => (mem_numbers_layoutAll hc hn).1) (.of_eq hfirst) hf
  | swap d e ds =>
    intro id
    obtain ⟨f, hf⟩ := exists_layout_renumber e id (id + d.size)
    obtain ⟨g, hg⟩ := exists_layout_renumber d (id + e.size) id
    have hrest : layoutAll none (id + d.size + e.size) ds =
        (layoutAll none (id + e.size + d.size) ds).map (StubClass.renumber fun n => n) := by
      rw [StubClass.map_renumber_self, Nat.add_right_comm]
    -- the parts are renumbered where they stand, then the first two change places
    obtain ⟨inner, hinner⟩ := exists_renumber_append
      (fun c hc n hn => (mem_numbers_layout hc hn).2)
      (fun c hc n hn => (mem_numbers_layoutAll hc hn).1) (.of_eq hg) (.of_eq hrest)
    rw [← layoutAll] at hinner
    obtain ⟨whole, hwhole⟩ := exists_renumber_append
      (fun c hc n hn => (mem_numbers_layout hc hn).2)
      (fun c hc n hn => (mem_numbers_layoutAll hc hn).1) (.of_eq hf) hinner
    rw [← layoutAll] at hwhole
    refine ⟨whole, List.Perm.trans ?_ hwhole⟩
    rw [layoutAll, layoutAll]
    exact List.perm_append_comm_assoc _ _ _
  | trans h h' ih ih' =>
    intro id
    obtain ⟨f, hf⟩ := ih id
    obtain ⟨g, hg⟩ := ih' id
    refine ⟨g ∘ f, hg.trans ((hf.map _).trans ?_)⟩
    rw [List.map_map]
    simp only [Function.comp_def, StubClass.renumber_renumber]
    exact .refl _

end ClassDef

/-! ## Renumbered class sets -/

namespace ClassSet

/-- `set'` has the classes of `set` in any order, with numbers replaced. -/
structure Renumbered (f : Nat → Nat) (set set' : ClassSet) : Prop where
  source : set.WellFormed
  target : set'.WellFormed
  classes : set'.classes.Perm (set.classes.map (StubClass.renumber f))

/-- **The order of the definitions decides the numbers only**, and does not matter to whether a
model is accepted. -/
theorem ofDefs_perm {defs defs' : List ClassDef} {set : ClassSet} (h : defs.Perm defs')
    (hset : ofDefs defs = .ok set) :
    ∃ set' f, ofDefs defs' = .ok set' ∧ Renumbered f set set' := by
  obtain ⟨f, hf⟩ := ClassDef.exists_layoutAll_renumber h 0
  have hwf := ofDefs_wellFormed hset
  obtain ⟨-, rfl⟩ := ofDefs_eq_ok_iff.1 hset
  have hnames := hf.map (·.qualifiedName)
  rw [List.map_map] at hnames
  have hfault : firstFault? [] (ClassDef.layoutAll none 0 defs') = none := by
    refine firstFault?_eq_none_iff.2 ⟨fun c' hc' => ?_, nofun, hnames.nodup_iff.2 hwf.names⟩
    obtain ⟨c, hc, rfl⟩ := List.mem_map.1 (hf.mem_iff.1 hc')
    exact hwf.named c hc
  have hset' := ofDefs_eq_ok_iff.2 ⟨hfault, rfl⟩
  exact ⟨_, f, hset', hwf, ofDefs_wellFormed hset', hf⟩

namespace Renumbered

variable {f : Nat → Nat} {set set' : ClassSet} {c : StubClass} {name : String}

theorem mem (h : Renumbered f set set') (hc : c ∈ set.classes) : c.renumber f ∈ set'.classes :=
  h.classes.mem_iff.2 (List.mem_map_of_mem hc)

theorem length_eq (h : Renumbered f set set') : set'.classes.length = set.classes.length := by
  rw [h.classes.length_eq, List.length_map]

/-! ## From class to class -/

theorem get? (h : Renumbered f set set') (hc : c ∈ set.classes) :
    set'.get? (f c.id) = some (c.renumber f) :=
  (get?_eq_some_iff h.target).2 ⟨h.mem hc, rfl⟩

theorem findQualified? (h : Renumbered f set set') (name : String) :
    set'.findQualified? name = (set.findQualified? name).map (StubClass.renumber f) := by
  refine Option.ext fun c' => ?_
  rw [Option.map_eq_some_iff, findQualified?_eq_some_iff h.target, h.classes.mem_iff,
    List.mem_map]
  simp only [findQualified?_eq_some_iff h.source]
  constructor
  · rintro ⟨⟨c, hc, rfl⟩, hname⟩
    exact ⟨c, ⟨hc, hname⟩, rfl⟩
  · rintro ⟨c, ⟨hc, hname⟩, rfl⟩
    exact ⟨⟨c, hc, rfl⟩, hname⟩

theorem find? (h : Renumbered f set set') (name : String) :
    set'.find? name = (set.find? name).map (StubClass.renumber f) := by
  rw [ClassSet.find?, ClassSet.find?, h.findQualified?, h.findQualified?]
  cases set.findQualified? name <;> rfl

theorem superclassOf (h : Renumbered f set set') (c : StubClass) :
    set'.superclassOf (c.renumber f) = (set.superclassOf c).map (StubClass.renumber f) := by
  unfold ClassSet.superclassOf
  cases hs : c.superclass with
  | none => simp [StubClass.renumber, hs]
  | some s => simp [StubClass.renumber, hs, h.find?]

theorem nestedOf (h : Renumbered f set set') (hc : c ∈ set.classes) :
    set'.nestedOf (c.renumber f) = (set.nestedOf c).map (StubClass.renumber f) := by
  have hget : ∀ n ∈ c.nested, set'.get? (f n) = (set.get? n).map (StubClass.renumber f) := by
    intro n hn
    obtain ⟨d, hd, rfl, -⟩ := h.source.nested c hc n hn
    rw [h.get? hd, (get?_eq_some_iff h.source).2 ⟨hd, rfl⟩, Option.map_some]
  rw [ClassSet.nestedOf, ClassSet.nestedOf, List.map_filterMap]
  exact List.filterMap_map.trans (List.filterMap_congr hget)

theorem enclosingOf (h : Renumbered f set set') (hc : c ∈ set.classes) :
    set'.enclosingOf (c.renumber f) = (set.enclosingOf c).map (StubClass.renumber f) := by
  rcases h.source.owned c hc with htop | ⟨o, ho, hco, -⟩
  · simp [ClassSet.enclosingOf, StubClass.renumber, htop.enclosing]
  · have hget := (get?_eq_some_iff h.source).2 ⟨ho, rfl⟩
    simp [ClassSet.enclosingOf, StubClass.renumber, hco.enclosing, h.get? ho, hget]

theorem owners (h : Renumbered f set set') (hc : c ∈ set.classes) :
    set'.owners (c.renumber f) = (set.owners c).map (StubClass.renumber f) := by
  induction c, hc using induction_on_owner h.source with
  | top c hc htop =>
    rw [owners_eq h.target (h.mem hc), owners_eq h.source hc, h.enclosingOf hc,
      (enclosingOf_eq_none_iff h.source hc).2 htop.isNested_eq_false]
    rfl
  | nested c hc o ho hco howner =>
    rw [owners_eq h.target (h.mem hc), owners_eq h.source hc, h.enclosingOf hc,
      (enclosingOf_eq_some_iff h.source hc).2 ⟨ho, hco⟩]
    exact congrArg (c.renumber f :: ·) howner

theorem outermost (h : Renumbered f set set') (hc : c ∈ set.classes) :
    set'.outermost (c.renumber f) = (set.outermost c).renumber f := by
  rw [ClassSet.outermost, ClassSet.outermost, h.owners hc, List.getLast?_map]
  cases (set.owners c).getLast? <;> rfl

/-! ## What has no numbers in it -/

theorem declaredFields (h : Renumbered f set set') (c : StubClass) :
    set'.declaredFields (c.renumber f) = set.declaredFields c := by
  rw [ClassSet.declaredFields, ClassSet.declaredFields, h.superclassOf, Option.map_map]
  rfl

theorem visibleAccessors (h : Renumbered f set set') (c : StubClass) :
    set'.visibleAccessors (c.renumber f) =
      (set.visibleAccessors c).map fun a => (a.1.renumber f, a.2) := by
  rw [ClassSet.visibleAccessors, ClassSet.visibleAccessors, h.superclassOf, List.map_append,
    List.map_map]
  cases set.superclassOf c with
  | none => rfl
  | some s => simp only [Option.map_some, List.map_map]; rfl

theorem declaresWithin (h : Renumbered f set set') (field : String) (steps : Nat)
    (type : String) :
    set'.declaresWithin field steps type = set.declaresWithin field steps type := by
  induction steps generalizing type with
  | zero =>
    rw [ClassSet.declaresWithin, ClassSet.declaresWithin, h.find?]
    cases set.find? type <;> rfl
  | succ steps ih =>
    rw [ClassSet.declaresWithin, ClassSet.declaresWithin, h.find?]
    cases set.find? type with
    | none => rfl
    | some c =>
      have hdeclares : (c.renumber f).declares field = c.declares field := rfl
      have hsuper : (c.renumber f).superclass = c.superclass := rfl
      simp only [Option.map_some, hdeclares, hsuper]
      cases c.superclass with
      | none => rfl
      | some parent => simp only [ih]

theorem hasField (h : Renumbered f set set') (type field : String) :
    set'.hasField type field = set.hasField type field := by
  rw [ClassSet.hasField, ClassSet.hasField, h.length_eq, h.declaresWithin]

end Renumbered
end ClassSet
end EntityGen
