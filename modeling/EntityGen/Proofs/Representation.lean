import EntityGen.Proofs.Arena
import Mathlib.Data.List.Forall2
import Mathlib.Data.List.Sort

/-! # What a class set represents

`Arena.Represents`: the classes of an arena stand for the definitions of a model, one for each in
the order of the document, and the numbers, lists and names in them agree with each other and with
the index. **Every arena that is made represents its model** (`Arena.represents_ofDefs`). -/

namespace EntityGen

/-! ## Definitions in document order -/

mutual

/-- A definition and those nested in it, each before those inside it. -/
def ClassDef.preorder : ClassDef → List ClassDef
  | ⟨package, name, isInterface, superclass, fields, methods, nested⟩ =>
    ⟨package, name, isInterface, superclass, fields, methods, nested⟩ :: preorderAll nested

def ClassDef.preorderAll : List ClassDef → List ClassDef
  | [] => []
  | d :: ds => d.preorder ++ preorderAll ds

end

/-- A class of the set stands for a definition. -/
structure ClassSet.Defines (set : ClassSet) (d : ClassDef) (c : StubClass) : Prop where
  name : c.name = d.name
  isInterface : c.isInterface = d.isInterface
  superclass : c.superclass = d.superclass.map Name.dotted
  fields : c.fields = d.fields
  methods : c.methods = d.methods
  /-- The nested classes come in the order of their definitions. -/
  nested : (set.nestedOf c).map (·.name) = d.nested.map (·.name)

/-- The classes of an arena stand for the definitions of a model. -/
structure Arena.Represents (a : Arena) (defs : List ClassDef) : Prop where
  /-- One class for each definition, in document order. -/
  classes : List.Forall₂ a.toSet.Defines (ClassDef.preorderAll defs) a.classes
  /-- A class's number is its place. -/
  ids : ∀ (i : Nat) c, a.classes[i]? = some c → c.id = i
  /-- Owners have smaller numbers. -/
  later : ∀ c ∈ a.classes, ∀ n, c.enclosing = some n → n < c.id
  /-- A class lists the classes that name it as theirs. -/
  nested : ∀ o ∈ a.classes,
    o.nested = (a.classes.filter (·.enclosing = some o.id)).map StubClass.id
  /-- The index leads from each name to its class. -/
  index : ∀ name (id : Nat), a.index.get? name = some id ↔
    ∃ c, a.classes[id]? = some c ∧ c.qualifiedName = name
  names : (a.classes.map (·.qualifiedName)).Nodup
  /-- The index finds what a search through the classes finds. -/
  lookup : ∀ name, (a.index.get? name).bind a.toSet.get? = a.toSet.findQualified? name
  /-- A nested class is named after its owner. -/
  inner : ∀ c ∈ a.classes, ∀ n, c.enclosing = some n → ∃ o, a.classes[n]? = some o ∧ c.DirectlyIn o
  /-- The classes of a top-level definition have its class as their outermost one. -/
  outermost : ∀ before d after, defs = before ++ d :: after →
    ∃ root, a.classes[ClassDef.sizeAll before]? = some root ∧ a.toSet.Defines d root ∧
      root.package = d.package ∧ root.OnTop ∧
      ∀ i < d.size, ∃ c, a.classes[ClassDef.sizeAll before + i]? = some c ∧
        a.toSet.outermost c = root

namespace ClassDef

variable {owner : Option StubClass} {id : Nat} {ds : List ClassDef} {classes : List StubClass}

/-- A class was laid out for a definition, with the classes nested in it, among others. -/
def LaidOut (classes : List StubClass) (d : ClassDef) (c : StubClass) : Prop :=
  (∃ owner, c = d.classAt owner c.id) ∧ layoutAll (some c) (c.id + 1) d.nested ⊆ classes

mutual

theorem forall₂_layout (owner : Option StubClass) (id : Nat) :
    ∀ d : ClassDef, d.layout owner id ⊆ classes →
      List.Forall₂ (LaidOut classes) d.preorder (d.layout owner id)
  | ⟨package, name, isInterface, superclass, fields, methods, nested⟩, h => by
    rw [layout] at h ⊢
    rw [preorder]
    have hnested := (List.cons_subset.1 h).2
    exact .cons ⟨⟨owner, rfl⟩, hnested⟩ (forall₂_layoutAll _ (id + 1) nested hnested)

/-- The classes of definitions stand in document order. -/
theorem forall₂_layoutAll (owner : Option StubClass) (id : Nat) :
    ∀ ds : List ClassDef, layoutAll owner id ds ⊆ classes →
      List.Forall₂ (LaidOut classes) (preorderAll ds) (layoutAll owner id ds)
  | [], _ => by
    rw [layoutAll, preorderAll]
    exact .nil
  | d :: ds, h => by
    rw [layoutAll] at h ⊢
    rw [preorderAll]
    obtain ⟨hfirst, hrest⟩ := List.append_subset.1 h
    exact List.rel_append (forall₂_layout owner id d hfirst)
      (forall₂_layoutAll owner (id + d.size) ds hrest)

end

theorem layoutAll_append (owner : Option StubClass) (id : Nat) (before after : List ClassDef) :
    layoutAll owner id (before ++ after) =
      layoutAll owner id before ++ layoutAll owner (id + sizeAll before) after := by
  induction before generalizing id with
  | nil => simp [layoutAll, sizeAll]
  | cons d before ih =>
    rw [List.cons_append, layoutAll, layoutAll, ih, sizeAll, List.append_assoc, Nat.add_assoc]

theorem length_layoutAll (owner : Option StubClass) (id : Nat) (ds : List ClassDef) :
    (layoutAll owner id ds).length = sizeAll ds := by
  rw [← List.length_map (·.id), ids_layoutAll, List.length_range']

end ClassDef

namespace ClassDef

theorem package_classAt_none (d : ClassDef) (id : Nat) :
    (d.classAt none id).package = d.package := by
  by_cases h : d.package.isEmpty
  · have hempty : d.package = "" := by simpa using h
    simp [classAt, names, hempty]
  · simp [classAt, names, h]

end ClassDef

namespace ClassSet

variable {set : ClassSet} {c : StubClass} {d : ClassDef}

theorem names_of_idsFrom (h : set.WellFormed) {owner : Option StubClass} {id : Nat}
    {ds : List ClassDef} (hin : ClassDef.layoutAll owner id ds ⊆ set.classes) :
    ((ClassDef.idsFrom id ds).filterMap set.get?).map (·.name) = ds.map (·.name) := by
  induction ds generalizing id with
  | nil => rfl
  | cons d ds ih =>
    rw [ClassDef.layoutAll] at hin
    obtain ⟨hfirst, hrest⟩ := List.append_subset.1 hin
    have hget : set.get? id = some (d.classAt owner id) := by
      rw [get?_eq_some_iff h]
      refine ⟨hfirst ?_, rfl⟩
      rw [ClassDef.layout_eq]
      exact List.mem_cons_self
    rw [ClassDef.idsFrom, List.filterMap_cons_some hget, List.map_cons, List.map_cons, ih hrest]
    rfl

theorem defines_of_laidOut (h : set.WellFormed) (hc : ClassDef.LaidOut set.classes d c) :
    set.Defines d c := by
  obtain ⟨⟨owner, heq⟩, hnested⟩ := hc
  have hnames := names_of_idsFrom h hnested
  generalize c.id = id at heq hnames
  subst heq
  exact ⟨rfl, rfl, rfl, rfl, rfl, hnames⟩

/-- A class lists the classes that name it as their owner. -/
theorem nested_eq_filter (h : set.WellFormed) {o : StubClass} (ho : o ∈ set.classes) :
    o.nested = (set.classes.filter (·.enclosing = some o.id)).map StubClass.id := by
  have hsorted : (set.classes.map StubClass.id).Pairwise (· < ·) := by
    rw [h.ids]
    exact List.pairwise_lt_range
  refine (h.ordered o ho).eq_of_mem_iff (hsorted.sublist (List.filter_sublist.map _)) fun n => ?_
  rw [← ids_nestedOf h ho]
  simp only [List.mem_map, List.mem_filter, decide_eq_true_eq, mem_nestedOf_iff h ho]
  constructor
  · rintro ⟨c, ⟨hc, hco⟩, rfl⟩
    exact ⟨c, ⟨hc, hco.enclosing⟩, rfl⟩
  · rintro ⟨c, ⟨hc, hencl⟩, rfl⟩
    rcases h.owned c hc with htop | ⟨o', ho', hco, -⟩
    · rw [htop.enclosing] at hencl
      cases hencl
    · have hid := Option.some.inj (hco.enclosing.symm.trans hencl)
      exact ⟨c, ⟨hc, eq_of_id_eq h ho' ho hid ▸ hco⟩, rfl⟩

/-- All classes of a top-level definition lie in the first of them. -/
theorem liesIn_of_mem_layout (h : set.WellFormed) {id : Nat} (hin : d.layout none id ⊆ set.classes)
    (hc : c ∈ d.layout none id) : set.LiesIn c (d.classAt none id) := by
  induction hn : c.id using Nat.strongRecOn generalizing c with
  | ind n ih =>
    rcases ClassDef.layout_owned none id d hc with rfl | ⟨o, ho, hco, -⟩
    · exact .refl _
    · have hstep := (enclosingOf_eq_some_iff h (hin hc)).2 ⟨hin ho, hco⟩
      exact .step hstep (ih o.id (hn ▸ hco.later) ho rfl)

end ClassSet

namespace Arena

variable {a : Arena} {defs : List ClassDef}

theorem lookup_eq_findQualified? (hwf : a.toSet.WellFormed) (h : a.Indexed) (name : String) :
    (a.index.get? name).bind a.toSet.get? = a.toSet.findQualified? name := by
  cases hfind : a.toSet.findQualified? name with
  | some c =>
    obtain ⟨hc, hname⟩ := (ClassSet.findQualified?_eq_some_iff hwf).1 hfind
    have hget : a.toSet.get? c.id = some c := (ClassSet.get?_eq_some_iff hwf).2 ⟨hc, rfl⟩
    rw [(h name c.id).2 ⟨c, hget, hname⟩, Option.bind_some, hget]
  | none =>
    cases hindex : a.index.get? name with
    | none => rfl
    | some id =>
      obtain ⟨c, hc, hname⟩ := (h name id).1 hindex
      have hmem := List.mem_of_getElem? hc
      rw [(ClassSet.findQualified?_eq_some_iff hwf).2 ⟨hmem, hname⟩] at hfind
      cases hfind

/-- **An arena represents its model.** What is made of definitions is their class set, with an index
of its names, and its classes stand for the definitions. -/
theorem represents_ofDefs (h : ofDefs defs = .ok a) :
    ClassSet.ofDefs defs = .ok a.toSet ∧ a.Represents defs := by
  have hset : ClassSet.ofDefs defs = .ok a.toSet := by
    rw [← ofDefs_eq, h]
    rfl
  refine ⟨hset, ?_⟩
  have hwf : a.toSet.WellFormed := ClassSet.ofDefs_wellFormed hset
  have hclasses : a.classes = ClassDef.layoutAll none 0 defs :=
    congrArg ClassSet.classes (ClassSet.ofDefs_eq_ok_iff.1 hset).2
  have hget : ∀ {i : Nat} {c : StubClass}, a.classes[i]? = some c ↔ c ∈ a.classes ∧ c.id = i :=
    ClassSet.get?_eq_some_iff hwf
  have hdefines : ∀ ds cs, List.Forall₂ (ClassDef.LaidOut a.classes) ds cs →
      List.Forall₂ a.toSet.Defines ds cs := fun ds cs hcs =>
    hcs.imp fun d c hc => ClassSet.defines_of_laidOut hwf hc
  have howner : ∀ c ∈ a.classes, ∀ n, c.enclosing = some n →
      ∃ o, a.classes[n]? = some o ∧ c.DirectlyIn o := by
    intro c hc n hn
    rcases hwf.owned c hc with htop | ⟨o, ho, hco, -⟩
    · rw [htop.enclosing] at hn
      cases hn
    · have hid := Option.some.inj (hco.enclosing.symm.trans hn)
      exact ⟨o, hget.2 ⟨ho, hid⟩, hco⟩
  refine ⟨?_, fun i c hc => (hget.1 hc).2, ?_, fun o ho => ClassSet.nested_eq_filter hwf ho,
    indexed_ofDefs h, hwf.names, lookup_eq_findQualified? hwf (indexed_ofDefs h), howner, ?_⟩
  · have hlaid := ClassDef.forall₂_layoutAll none 0 defs (List.Subset.refl _)
    rw [← hclasses] at hlaid
    exact hdefines _ _ hlaid
  · intro c hc n hn
    obtain ⟨o, ho, hco⟩ := howner c hc n hn
    rw [← (hget.1 ho).2]
    exact hco.later
  · intro before d after hdefs
    rw [hdefs, ClassDef.layoutAll_append, ClassDef.layoutAll, Nat.zero_add] at hclasses
    have hin : d.layout none (ClassDef.sizeAll before) ⊆ a.classes := by
      intro c hc
      rw [hclasses]
      exact List.mem_append_right _ (List.mem_append_left _ hc)
    have hroot := hin
    rw [ClassDef.layout_eq] at hroot
    obtain ⟨hmem, hnested⟩ := List.cons_subset.1 hroot
    have htop := d.classAt_onTop (ClassDef.sizeAll before)
    refine ⟨d.classAt none (ClassDef.sizeAll before), hget.2 ⟨hmem, rfl⟩,
      ClassSet.defines_of_laidOut hwf ⟨⟨none, rfl⟩, hnested⟩, d.package_classAt_none _, htop, ?_⟩
    intro i hi
    rw [← length_layout none (ClassDef.sizeAll before) d] at hi
    have hat : a.classes[ClassDef.sizeAll before + i]? =
        some (d.layout none (ClassDef.sizeAll before))[i] := by
      rw [hclasses, List.getElem?_append_right (by rw [ClassDef.length_layoutAll]; omega),
        ClassDef.length_layoutAll, Nat.add_sub_cancel_left, List.getElem?_append_left hi,
        List.getElem?_eq_getElem hi]
    refine ⟨_, hat, ?_⟩
    have hc := List.getElem_mem hi
    rw [ClassSet.outermost_of_liesIn hwf (hin hc) (ClassSet.liesIn_of_mem_layout hwf hin hc)]
    exact ClassSet.outermost_of_onTop hwf hmem (by simp [StubClass.isNested, htop.enclosing])

/-- An offer with items that have details, and a class beside it. -/
def offers : List ClassDef :=
  let detail : ClassDef := ⟨"", "Detail", false, none, [], [], []⟩
  let item : ClassDef := ⟨"other", "Item", false, some "a.Base$Part", [], [], [detail]⟩
  [⟨"a", "Offer", true, none, [], [], [item]⟩, ⟨"a", "Base", false, none, [], [], []⟩]

theorem names_offers : (ofDefs offers).toOption.map (fun a => a.classes.map (·.binaryName)) =
    some ["a.Offer", "a.Offer$Item", "a.Offer$Item$Detail", "a.Base"] := by
  decide +kernel

theorem represents_offers : ∃ a, ofDefs offers = .ok a ∧ a.Represents offers ∧
    a.classes.map (·.binaryName) =
      ["a.Offer", "a.Offer$Item", "a.Offer$Item$Detail", "a.Base"] := by
  have hnames := names_offers
  cases h : ofDefs offers with
  | error fault =>
    rw [h] at hnames
    cases hnames
  | ok a =>
    rw [h] at hnames
    exact ⟨a, rfl, (represents_ofDefs h).2, Option.some.inj hnames⟩

end Arena
end EntityGen
