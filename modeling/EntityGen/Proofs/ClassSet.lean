import EntityGen.Stub.ClassSet
import Mathlib.Data.List.Nodup

/-! # Accepted class sets

What holds of every class set that comes from definitions (`ClassSet.WellFormed`,
`ofDefs_wellFormed`), and what it makes of the ways to get from one class to another:

* `get?_eq_some_iff`, `find?_eq_some_iff`: a number or a name leads to the one class that has it.
* `mem_nestedOf_iff`, `enclosingOf_eq_some_iff`: the classes directly inside a class, and the class
  around it, are each other's inverse.
* `induction_on_owner`: what goes from a class to those directly in it holds of all classes once it
  holds of those on top.
* `mem_owners_iff`, `owners_eq`: the owners of a class are the classes it lies in, however deep. -/

namespace EntityGen

/-! ## Where a class stands -/

namespace StubClass

/-- `c` is nested directly in `o` and named accordingly. -/
structure DirectlyIn (c o : StubClass) : Prop where
  enclosing : c.enclosing = some o.id
  package : c.package = o.package
  qualifiedName : c.qualifiedName = o.qualifiedName ++ "." ++ c.name
  binaryName : c.binaryName = o.binaryName ++ "$" ++ c.name
  later : o.id < c.id

/-- `c` is a top-level class and named accordingly. -/
structure OnTop (c : StubClass) : Prop where
  enclosing : c.enclosing = none
  qualifiedName :
    c.qualifiedName = if c.package.isEmpty then c.name else c.package ++ "." ++ c.name
  binaryName : c.binaryName = c.qualifiedName

theorem OnTop.isNested_eq_false {c : StubClass} (h : c.OnTop) : c.isNested = false := by
  rw [isNested, h.enclosing]
  rfl

end StubClass

namespace ClassDef

/-! ## The layout of definitions -/

theorem size_eq (d : ClassDef) : d.size = sizeAll d.nested + 1 := by
  cases d
  rw [size]

theorem layout_eq (d : ClassDef) (owner : Option StubClass) (id : Nat) :
    d.layout owner id =
      d.classAt owner id :: layoutAll (some (d.classAt owner id)) (id + 1) d.nested := by
  cases d
  rw [layout]

theorem classAt_onTop (d : ClassDef) (id : Nat) : (d.classAt none id).OnTop := by
  by_cases h : d.package.isEmpty
  · exact ⟨rfl, by simp [classAt, names, h], by simp [classAt, names, h]⟩
  · exact ⟨rfl, by simp [classAt, names, h], by simp [classAt, names, h]⟩

theorem classAt_directlyIn (d : ClassDef) {o : StubClass} {id : Nat} (h : o.id < id) :
    (d.classAt (some o) id).DirectlyIn o :=
  ⟨rfl, rfl, rfl, rfl, h⟩

mutual

theorem ids_layout (owner : Option StubClass) (id : Nat) :
    ∀ d : ClassDef, (d.layout owner id).map (·.id) = List.range' id d.size
  | ⟨package, name, isInterface, superclass, fields, methods, nested⟩ => by
    rw [layout, size, List.map_cons, ids_layoutAll _ (id + 1) nested, List.range'_succ]
    rfl

/-- The classes of definitions are numbered one after the other. -/
theorem ids_layoutAll (owner : Option StubClass) (id : Nat) :
    ∀ ds : List ClassDef, (layoutAll owner id ds).map (·.id) = List.range' id (sizeAll ds)
  | [] => by rw [layoutAll, sizeAll]; rfl
  | d :: ds => by
    rw [layoutAll, sizeAll, List.map_append, ids_layout owner id d,
      ids_layoutAll owner (id + d.size) ds, List.range'_append_1]

end

theorem mem_idsFrom_ge {n id : Nat} {ds : List ClassDef} (h : n ∈ idsFrom id ds) : id ≤ n := by
  induction ds generalizing id with
  | nil => simp [idsFrom] at h
  | cons d ds ih =>
    rcases List.mem_cons.1 h with rfl | h
    · exact Nat.le_refl _
    · exact Nat.le_trans (Nat.le_add_right _ _) (ih h)

theorem idsFrom_pairwise (id : Nat) (ds : List ClassDef) :
    (idsFrom id ds).Pairwise (· < ·) := by
  induction ds generalizing id with
  | nil => exact .nil
  | cons d ds ih =>
    refine List.pairwise_cons.2 ⟨fun n hn => ?_, ih (id + d.size)⟩
    have hge := mem_idsFrom_ge hn
    have hsize := d.size_eq
    omega

/-- The number of a definition leads to its class. -/
theorem exists_of_mem_idsFrom {owner : Option StubClass} {n id : Nat} {ds : List ClassDef}
    (h : n ∈ idsFrom id ds) : ∃ d ∈ ds, d.classAt owner n ∈ layoutAll owner id ds := by
  induction ds generalizing id with
  | nil => simp [idsFrom] at h
  | cons d ds ih =>
    rw [layoutAll]
    rcases List.mem_cons.1 h with rfl | h
    · refine ⟨d, List.mem_cons_self, List.mem_append_left _ ?_⟩
      rw [layout_eq]
      exact List.mem_cons_self
    · obtain ⟨d', hd', hmem⟩ := ih h
      exact ⟨d', List.mem_cons_of_mem _ hd', List.mem_append_right _ hmem⟩

mutual

theorem layout_owned (owner : Option StubClass) (id : Nat) :
    ∀ (d : ClassDef) {c : StubClass}, c ∈ d.layout owner id →
      c = d.classAt owner id ∨
        ∃ o ∈ d.layout owner id, c.DirectlyIn o ∧ c.id ∈ o.nested
  | ⟨package, name, isInterface, superclass, fields, methods, nested⟩, c, h => by
    rw [layout] at h ⊢
    rcases List.mem_cons.1 h with rfl | h
    · exact .inl rfl
    · refine .inr ?_
      rcases layoutAll_owned _ (id + 1) nested h with ⟨n, hn, d, rfl⟩ | ⟨o, ho, hco⟩
      · refine ⟨_, List.mem_cons_self, classAt_directlyIn d ?_, hn⟩
        exact Nat.lt_of_succ_le (mem_idsFrom_ge hn)
      · exact ⟨o, List.mem_cons_of_mem _ ho, hco⟩

/-- A class among those of definitions is that of one of them, or nested in another one there. -/
theorem layoutAll_owned (owner : Option StubClass) (id : Nat) :
    ∀ (ds : List ClassDef) {c : StubClass}, c ∈ layoutAll owner id ds →
      (∃ n ∈ idsFrom id ds, ∃ d : ClassDef, c = d.classAt owner n) ∨
        ∃ o ∈ layoutAll owner id ds, c.DirectlyIn o ∧ c.id ∈ o.nested
  | [], c, h => by simp [layoutAll] at h
  | d :: ds, c, h => by
    rw [layoutAll] at h ⊢
    rcases List.mem_append.1 h with h | h
    · rcases layout_owned owner id d h with rfl | ⟨o, ho, hco⟩
      · exact .inl ⟨id, List.mem_cons_self, d, rfl⟩
      · exact .inr ⟨o, List.mem_append_left _ ho, hco⟩
    · rcases layoutAll_owned owner (id + d.size) ds h with ⟨n, hn, hd⟩ | ⟨o, ho, hco⟩
      · exact .inl ⟨n, List.mem_cons_of_mem _ hn, hd⟩
      · exact .inr ⟨o, List.mem_append_right _ ho, hco⟩

end

mutual

theorem layout_nested (owner : Option StubClass) (id : Nat) :
    ∀ (d : ClassDef) {o : StubClass}, o ∈ d.layout owner id →
      o.nested.Pairwise (· < ·) ∧
        ∀ n ∈ o.nested, ∃ c ∈ d.layout owner id, c.id = n ∧ c.DirectlyIn o
  | ⟨package, name, isInterface, superclass, fields, methods, nested⟩, o, h => by
    rw [layout] at h ⊢
    rcases List.mem_cons.1 h with rfl | h
    · refine ⟨idsFrom_pairwise (id + 1) nested, fun n hn => ?_⟩
      obtain ⟨d, -, hmem⟩ := exists_of_mem_idsFrom hn
      refine ⟨_, List.mem_cons_of_mem _ hmem, rfl, classAt_directlyIn d ?_⟩
      exact Nat.lt_of_succ_le (mem_idsFrom_ge hn)
    · obtain ⟨hord, hex⟩ := layoutAll_nested _ (id + 1) nested h
      refine ⟨hord, fun n hn => ?_⟩
      obtain ⟨c, hc, hco⟩ := hex n hn
      exact ⟨c, List.mem_cons_of_mem _ hc, hco⟩

/-- The numbers that a class lists are in order and lead to classes nested in it. -/
theorem layoutAll_nested (owner : Option StubClass) (id : Nat) :
    ∀ (ds : List ClassDef) {o : StubClass}, o ∈ layoutAll owner id ds →
      o.nested.Pairwise (· < ·) ∧
        ∀ n ∈ o.nested, ∃ c ∈ layoutAll owner id ds, c.id = n ∧ c.DirectlyIn o
  | [], o, h => by simp [layoutAll] at h
  | d :: ds, o, h => by
    rw [layoutAll] at h ⊢
    rcases List.mem_append.1 h with h | h
    · obtain ⟨hord, hex⟩ := layout_nested owner id d h
      refine ⟨hord, fun n hn => ?_⟩
      obtain ⟨c, hc, hco⟩ := hex n hn
      exact ⟨c, List.mem_append_left _ hc, hco⟩
    · obtain ⟨hord, hex⟩ := layoutAll_nested owner (id + d.size) ds h
      refine ⟨hord, fun n hn => ?_⟩
      obtain ⟨c, hc, hco⟩ := hex n hn
      exact ⟨c, List.mem_append_right _ hc, hco⟩

end

end ClassDef

/-! ## Well-formed sets -/

/-- What every accepted class set satisfies. -/
structure ClassSet.WellFormed (set : ClassSet) : Prop where
  /-- A class's number is its place. -/
  ids : set.classes.map (·.id) = List.range set.classes.length
  /-- A class is on top, or its owner lists it. -/
  owned : ∀ c ∈ set.classes, c.OnTop ∨ ∃ o ∈ set.classes, c.DirectlyIn o ∧ c.id ∈ o.nested
  /-- The numbers in a class lead to classes nested in it. -/
  nested : ∀ o ∈ set.classes, ∀ n ∈ o.nested, ∃ c ∈ set.classes, c.id = n ∧ c.DirectlyIn o
  ordered : ∀ o ∈ set.classes, o.nested.Pairwise (· < ·)
  names : (set.classes.map (·.qualifiedName)).Nodup
  named : ∀ c ∈ set.classes, Text.allBlank c.name = false

/-- Classes are without fault if they have names, each another one and none of those in `seen`. -/
theorem firstFault?_eq_none_iff {seen : List String} {cs : List StubClass} :
    firstFault? seen cs = none ↔
      (∀ c ∈ cs, Text.allBlank c.name = false) ∧ (∀ c ∈ cs, c.qualifiedName ∉ seen) ∧
        (cs.map (·.qualifiedName)).Nodup := by
  induction cs generalizing seen with
  | nil => simp [firstFault?]
  | cons c cs ih =>
    rw [firstFault?]
    split
    · next hblank => simp [hblank]
    · next hblank =>
      split
      · next hseen => simp [List.contains_iff_mem.1 hseen]
      · next hseen =>
        rw [List.contains_iff_mem] at hseen
        rw [ih, List.forall_mem_cons, List.forall_mem_cons, List.map_cons, List.nodup_cons]
        simp only [List.mem_cons, not_or, List.mem_map, not_exists, not_and]
        constructor
        · rintro ⟨hnamed, hnew, hnodup⟩
          exact ⟨⟨by simpa using hblank, hnamed⟩, ⟨hseen, fun d hd => (hnew d hd).2⟩,
            fun d hd => (hnew d hd).1, hnodup⟩
        · rintro ⟨⟨-, hnamed⟩, ⟨-, hnew⟩, hother, hnodup⟩
          exact ⟨hnamed, fun d hd => ⟨hother d hd, hnew d hd⟩, hnodup⟩

theorem ClassSet.ofDefs_eq_ok_iff {defs : List ClassDef} {set : ClassSet} :
    ClassSet.ofDefs defs = .ok set ↔
      firstFault? [] (ClassDef.layoutAll none 0 defs) = none ∧
        set = ⟨ClassDef.layoutAll none 0 defs⟩ := by
  unfold ofDefs
  dsimp only
  split
  · next hfault => simp [hfault]
  · next hfault => simp [hfault, eq_comm]

/-- **Accepted class sets are well-formed.** -/
theorem ClassSet.ofDefs_wellFormed {defs : List ClassDef} {set : ClassSet}
    (h : ClassSet.ofDefs defs = .ok set) : set.WellFormed := by
  obtain ⟨hfault, rfl⟩ := ofDefs_eq_ok_iff.1 h
  obtain ⟨hnamed, -, hnodup⟩ := firstFault?_eq_none_iff.1 hfault
  have hids := ClassDef.ids_layoutAll none 0 defs
  have hlen : (ClassDef.layoutAll none 0 defs).length = ClassDef.sizeAll defs := by
    simpa using congrArg List.length hids
  refine ⟨?_, fun c hc => ?_, fun o ho n hn => (ClassDef.layoutAll_nested none 0 defs ho).2 n hn,
    fun o ho => (ClassDef.layoutAll_nested none 0 defs ho).1, hnodup, hnamed⟩
  · rw [hids, hlen, List.range_eq_range']
  · rcases ClassDef.layoutAll_owned none 0 defs hc with ⟨n, -, d, rfl⟩ | ho
    · exact .inl (d.classAt_onTop n)
    · exact .inr ho

theorem Name.dotted_eq_self {name : String} (h : '$' ∉ name.toList) : Name.dotted name = name := by
  rw [dotted, Text.replace_eq_self h, String.ofList_toList]

namespace ClassSet

variable {set : ClassSet} {c d o : StubClass} {n : Nat} {name : String}

/-! ## Numbers and names -/

/-- The number of a class leads to it, and to no other. -/
theorem get?_eq_some_iff (h : set.WellFormed) :
    set.get? n = some c ↔ c ∈ set.classes ∧ c.id = n := by
  have hid : ∀ {n : Nat} {c : StubClass}, set.classes[n]? = some c → c.id = n := by
    intro n c hn
    have hat := congrArg (·[n]?) h.ids
    have hlt := (List.getElem?_eq_some_iff.1 hn).1
    simpa [hn, List.getElem?_range hlt] using hat
  constructor
  · intro hn
    exact ⟨List.mem_of_getElem? hn, hid hn⟩
  · rintro ⟨hc, rfl⟩
    obtain ⟨i, hi⟩ := List.getElem?_of_mem hc
    rw [get?, hid hi, hi]

theorem eq_of_id_eq (h : set.WellFormed) (hc : c ∈ set.classes) (hd : d ∈ set.classes)
    (e : c.id = d.id) : c = d := by
  have hc' := (get?_eq_some_iff h).2 ⟨hc, e⟩
  rw [(get?_eq_some_iff h).2 ⟨hd, rfl⟩] at hc'
  exact (Option.some.inj hc').symm

theorem id_lt_length (h : set.WellFormed) (hc : c ∈ set.classes) : c.id < set.classes.length := by
  have hm : c.id ∈ set.classes.map (·.id) := List.mem_map_of_mem hc
  rwa [h.ids, List.mem_range] at hm

theorem eq_of_qualifiedName_eq (h : set.WellFormed) (hc : c ∈ set.classes) (hd : d ∈ set.classes)
    (e : c.qualifiedName = d.qualifiedName) : c = d :=
  List.inj_on_of_nodup_map h.names hc hd e

theorem findQualified?_eq_some_iff (h : set.WellFormed) :
    set.findQualified? name = some c ↔ c ∈ set.classes ∧ c.qualifiedName = name := by
  constructor
  · intro hf
    exact ⟨List.mem_of_find?_eq_some hf, by simpa using List.find?_some hf⟩
  · rintro ⟨hc, rfl⟩
    cases hf : set.findQualified? c.qualifiedName with
    | none => simpa using List.find?_eq_none.1 hf c hc
    | some d =>
      have hd := List.find?_some hf
      rw [eq_of_qualifiedName_eq h (List.mem_of_find?_eq_some hf) hc (by simpa using hd)]

theorem mem_of_find? (hc : set.find? name = some c) : c ∈ set.classes := by
  rcases Option.or_eq_some_iff.1 hc with hc | ⟨-, hc⟩
  · exact List.mem_of_find?_eq_some hc
  · exact List.mem_of_find?_eq_some hc

/-- A name without `$` leads to the class of this qualified name. -/
theorem find?_eq_some_iff (h : set.WellFormed) (hname : '$' ∉ name.toList) :
    set.find? name = some c ↔ c ∈ set.classes ∧ c.qualifiedName = name := by
  rw [find?, Name.dotted_eq_self hname, Option.or_self, findQualified?_eq_some_iff h]

/-- What is true of the classes on top, and of any other as soon as it is true of the class that it
is directly in, is true of all classes. -/
theorem induction_on_owner (h : set.WellFormed) {P : ∀ c ∈ set.classes, Prop}
    (top : ∀ c hc, c.OnTop → P c hc)
    (nested : ∀ c hc o ho, c.DirectlyIn o → P o ho → P c hc) (c : StubClass)
    (hc : c ∈ set.classes) : P c hc := by
  -- by the number of the class, which is above those of its owners
  induction hid : c.id using Nat.strongRecOn generalizing c with
  | ind id ih =>
    rcases h.owned c hc with htop | ⟨o, ho, hco, -⟩
    · exact top c hc htop
    · exact nested c hc o ho hco (ih o.id (hid ▸ hco.later) o ho rfl)

/-- The binary name of a class has other separators than its qualified name, but as many. -/
theorem length_binaryName (h : set.WellFormed) (hc : c ∈ set.classes) :
    c.binaryName.length = c.qualifiedName.length := by
  induction c, hc using induction_on_owner h with
  | top c hc htop => rw [htop.binaryName]
  | nested c hc o ho hco howner =>
    rw [hco.binaryName, hco.qualifiedName]
    simp only [String.length_append, howner]
    rfl

/-! ## Owners -/

theorem enclosingOf_eq_some_iff (h : set.WellFormed) (hc : c ∈ set.classes) :
    set.enclosingOf c = some o ↔ o ∈ set.classes ∧ c.DirectlyIn o := by
  constructor
  · intro ho
    obtain ⟨n, hn, hget⟩ := Option.bind_eq_some_iff.1 ho
    obtain ⟨ho, rfl⟩ := (get?_eq_some_iff h).1 hget
    refine ⟨ho, ?_⟩
    rcases h.owned c hc with hc | ⟨o', ho', hco, -⟩
    · rw [hc.enclosing] at hn
      cases hn
    · have hid : o'.id = o.id := Option.some.inj (hco.enclosing.symm.trans hn)
      exact eq_of_id_eq h ho' ho hid ▸ hco
  · rintro ⟨ho, hco⟩
    rw [enclosingOf, hco.enclosing, Option.bind_some, get?_eq_some_iff h]
    exact ⟨ho, rfl⟩

theorem enclosingOf_eq_none_iff (h : set.WellFormed) (hc : c ∈ set.classes) :
    set.enclosingOf c = none ↔ c.isNested = false := by
  rcases h.owned c hc with htop | ⟨o, ho, hco, -⟩
  · simp [enclosingOf, StubClass.isNested, htop.enclosing]
  · rw [(enclosingOf_eq_some_iff h hc).2 ⟨ho, hco⟩]
    simp [StubClass.isNested, hco.enclosing]

theorem onTop_of_not_isNested (h : set.WellFormed) (hc : c ∈ set.classes)
    (htop : c.isNested = false) : c.OnTop := by
  rcases h.owned c hc with hontop | ⟨o, -, hco, -⟩
  · exact hontop
  · rw [StubClass.isNested, hco.enclosing] at htop
    cases htop

/-- The classes that a class lists are those directly in it. -/
theorem mem_nestedOf_iff (h : set.WellFormed) (ho : o ∈ set.classes) :
    c ∈ set.nestedOf o ↔ c ∈ set.classes ∧ c.DirectlyIn o := by
  rw [nestedOf, List.mem_filterMap]
  constructor
  · rintro ⟨n, hn, hget⟩
    obtain ⟨hc, hid⟩ := (get?_eq_some_iff h).1 hget
    obtain ⟨c', hc', hid', hco⟩ := h.nested o ho n hn
    exact ⟨hc, eq_of_id_eq h hc' hc (hid'.trans hid.symm) ▸ hco⟩
  · rintro ⟨hc, hco⟩
    refine ⟨c.id, ?_, (get?_eq_some_iff h).2 ⟨hc, rfl⟩⟩
    rcases h.owned c hc with htop | ⟨o', ho', hco', hn⟩
    · have := htop.enclosing.symm.trans hco.enclosing
      cases this
    · have hid : o'.id = o.id := Option.some.inj (hco'.enclosing.symm.trans hco.enclosing)
      exact eq_of_id_eq h ho' ho hid ▸ hn

/-- The classes directly in a class come in the order of the list in it. -/
theorem ids_nestedOf (h : set.WellFormed) (ho : o ∈ set.classes) :
    (set.nestedOf o).map (·.id) = o.nested := by
  have hget : ∀ n ∈ o.nested, ∃ c, set.get? n = some c ∧ c.id = n := fun n hn => by
    obtain ⟨c, hc, hid, -⟩ := h.nested o ho n hn
    exact ⟨c, (get?_eq_some_iff h).2 ⟨hc, hid⟩, hid⟩
  rw [nestedOf]
  generalize o.nested = ns at hget ⊢
  induction ns with
  | nil => rfl
  | cons n ns ih =>
    obtain ⟨c, hc, hid⟩ := hget n List.mem_cons_self
    rw [List.filterMap_cons_some hc, List.map_cons, hid,
      ih fun m hm => hget m (List.mem_cons_of_mem _ hm)]

/-- Classes directly in one class have different names. -/
theorem nestedOf_names_nodup (h : set.WellFormed) (ho : o ∈ set.classes) :
    ((set.nestedOf o).map (·.name)).Nodup := by
  have hnodup : (set.nestedOf o).Nodup := by
    refine List.Nodup.of_map (·.id) ?_
    rw [ids_nestedOf h ho]
    exact (h.ordered o ho).imp Nat.ne_of_lt
  refine hnodup.map_on fun c hc d hd e => ?_
  obtain ⟨hc, hco⟩ := (mem_nestedOf_iff h ho).1 hc
  obtain ⟨hd, hdo⟩ := (mem_nestedOf_iff h ho).1 hd
  exact eq_of_qualifiedName_eq h hc hd (by rw [hco.qualifiedName, hdo.qualifiedName, e])

/-- `c` is `a` or lies in it, however deep. -/
inductive LiesIn (set : ClassSet) : (c a : StubClass) → Prop
  | refl (c : StubClass) : LiesIn set c c
  | step {c o a : StubClass} : set.enclosingOf c = some o → LiesIn set o a → LiesIn set c a

theorem LiesIn.trans {a b : StubClass} (h : set.LiesIn c a) (h' : set.LiesIn a b) :
    set.LiesIn c b := by
  induction h with
  | refl => exact h'
  | step ho _ ih => exact .step ho (ih h')

/-- A class that lies in another one is that one, or lies in a class directly in it. -/
theorem LiesIn.eq_or_directly {a : StubClass} (h : set.LiesIn c a) :
    c = a ∨ ∃ b, set.enclosingOf b = some a ∧ set.LiesIn c b := by
  induction h with
  | refl c => exact .inl rfl
  | step ho _ ih =>
    rcases ih with rfl | ⟨b, hb, hob⟩
    · exact .inr ⟨_, ho, .refl _⟩
    · exact .inr ⟨b, hb, .step ho hob⟩

theorem LiesIn.mem {a : StubClass} (h : set.WellFormed) (hca : set.LiesIn c a)
    (hc : c ∈ set.classes) : a ∈ set.classes := by
  induction hca with
  | refl => exact hc
  | step ho _ ih => exact ih ((enclosingOf_eq_some_iff h hc).1 ho).1

/-- Of two classes that a class lies in, one lies in the other. -/
theorem LiesIn.total {a b : StubClass} (ha : set.LiesIn c a) (hb : set.LiesIn c b) :
    set.LiesIn a b ∨ set.LiesIn b a := by
  induction ha with
  | refl => exact .inl hb
  | step ho hoa ih =>
    cases hb with
    | refl => exact .inr (.step ho hoa)
    | step ho' hob =>
      rw [ho] at ho'
      cases ho'
      exact ih hob

theorem LiesIn.id_le {a : StubClass} (h : set.WellFormed) (hca : set.LiesIn c a)
    (hc : c ∈ set.classes) : a.id ≤ c.id := by
  induction hca with
  | refl => exact Nat.le_refl _
  | step ho _ ih =>
    obtain ⟨hmem, hco⟩ := (enclosingOf_eq_some_iff h hc).1 ho
    have hle := ih hmem
    have hlt := hco.later
    omega

/-- Classes directly in one class do not lie in each other. -/
theorem DirectlyIn.eq_of_liesIn {a b : StubClass} (h : set.WellFormed) (ha : a ∈ set.classes)
    (ho : o ∈ set.classes) (hao : a.DirectlyIn o) (hbo : b.DirectlyIn o) (hab : set.LiesIn a b) :
    a = b := by
  cases hab with
  | refl => rfl
  | step he hob =>
    rw [(enclosingOf_eq_some_iff h ha).2 ⟨ho, hao⟩] at he
    cases he
    have hle := hob.id_le h ho
    have hlt := hbo.later
    omega

/-- Owners come before what lies in them, so no step of the search for them is missing. -/
theorem ownersWithin_eq (h : set.WellFormed) {m n : Nat} (hc : c ∈ set.classes) (hm : c.id ≤ m)
    (hn : c.id ≤ n) : set.ownersWithin m c = set.ownersWithin n c := by
  induction m generalizing c n with
  | zero =>
    cases n with
    | zero => rfl
    | succ n =>
      rw [ownersWithin, ownersWithin]
      cases ho : set.enclosingOf c with
      | none => rfl
      | some o =>
        have hlt := ((enclosingOf_eq_some_iff h hc).1 ho).2.later
        omega
  | succ m ih =>
    cases ho : set.enclosingOf c with
    | none => cases n <;> simp [ownersWithin, ho]
    | some o =>
      obtain ⟨hmem, hco⟩ := (enclosingOf_eq_some_iff h hc).1 ho
      have hlt := hco.later
      cases n with
      | zero => omega
      | succ n =>
        simp only [ownersWithin, ho]
        rw [ih hmem (n := n) (by omega) (by omega)]

/-- The owners of a class: itself, then those of the class around it. -/
theorem owners_eq (h : set.WellFormed) (hc : c ∈ set.classes) :
    set.owners c = c :: ((set.enclosingOf c).map set.owners).getD [] := by
  cases ho : set.enclosingOf c with
  | none =>
    rw [owners]
    cases c.id <;> simp [ownersWithin, ho]
  | some o =>
    obtain ⟨hmem, hco⟩ := (enclosingOf_eq_some_iff h hc).1 ho
    have hlt := hco.later
    obtain ⟨k, hk⟩ := Nat.exists_eq_add_of_lt hlt
    rw [owners, show c.id = (o.id + k) + 1 from hk, ownersWithin, ho]
    exact congrArg (c :: ·) (ownersWithin_eq h hmem (Nat.le_add_right _ _) (Nat.le_refl o.id))

theorem mem_owners_iff (h : set.WellFormed) (hc : c ∈ set.classes) {a : StubClass} :
    a ∈ set.owners c ↔ set.LiesIn c a := by
  constructor
  · intro ha
    induction c, hc using induction_on_owner h with
    | top c hc htop =>
      rw [owners_eq h hc, (enclosingOf_eq_none_iff h hc).2 htop.isNested_eq_false] at ha
      obtain rfl := List.mem_singleton.1 ha
      exact .refl _
    | nested c hc o ho hco ih =>
      have hencl := (enclosingOf_eq_some_iff h hc).2 ⟨ho, hco⟩
      rw [owners_eq h hc, hencl] at ha
      rcases List.mem_cons.1 ha with rfl | ha
      · exact .refl _
      · exact .step hencl (ih ha)
  · intro hca
    induction hca with
    | refl c =>
      rw [owners_eq h hc]
      exact List.mem_cons_self
    | step ho _ ih =>
      have hmem := ((enclosingOf_eq_some_iff h hc).1 ho).1
      rw [owners_eq h hc, ho]
      exact List.mem_cons_of_mem _ (ih hmem)

/-! ## Outermost classes -/

theorem outermost_of_onTop (h : set.WellFormed) (hc : c ∈ set.classes) (htop : c.isNested = false) :
    set.outermost c = c := by
  rw [outermost, owners_eq h hc, (enclosingOf_eq_none_iff h hc).2 htop]
  rfl

/-- A class has the same outermost class as the one around it. -/
theorem outermost_of_enclosingOf (h : set.WellFormed) (hc : c ∈ set.classes)
    (ho : set.enclosingOf c = some o) : set.outermost c = set.outermost o := by
  have hmem := ((enclosingOf_eq_some_iff h hc).1 ho).1
  have hne : set.owners o ≠ [] := by simp [owners_eq h hmem]
  rw [outermost, owners_eq h hc, ho, Option.map_some, Option.getD_some, outermost,
    List.getLast?_cons, List.getLast?_eq_some_getLast hne]
  rfl

/-- A class and those around it have the same outermost class. -/
theorem outermost_of_liesIn (h : set.WellFormed) (hc : c ∈ set.classes) {a : StubClass}
    (hca : set.LiesIn c a) : set.outermost c = set.outermost a := by
  induction hca with
  | refl => rfl
  | step ho _ ih =>
    rw [outermost_of_enclosingOf h hc ho]
    exact ih ((enclosingOf_eq_some_iff h hc).1 ho).1

/-- The outermost class is on top, and the class lies in it. -/
theorem outermost_spec (h : set.WellFormed) (hc : c ∈ set.classes) :
    set.outermost c ∈ set.classes ∧ (set.outermost c).isNested = false ∧
      set.LiesIn c (set.outermost c) := by
  induction c, hc using induction_on_owner h with
  | top c hc htop =>
    rw [outermost_of_onTop h hc htop.isNested_eq_false]
    exact ⟨hc, htop.isNested_eq_false, .refl c⟩
  | nested c hc o ho hco howner =>
    have hencl := (enclosingOf_eq_some_iff h hc).2 ⟨ho, hco⟩
    obtain ⟨hmem, htop, hlies⟩ := howner
    rw [outermost_of_enclosingOf h hc hencl]
    exact ⟨hmem, htop, .step hencl hlies⟩

end ClassSet
end EntityGen
