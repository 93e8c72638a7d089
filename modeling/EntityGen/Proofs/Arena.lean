import EntityGen.Proofs.ClassSet
import EntityGen.Proofs.NameMap
import EntityGen.Stub.Arena

/-! # Class sets made in an arena

Inserting a definition comes to putting the classes of its layout behind the others, one after the
other (`Arena.insert_eq`), so an arena makes the class set of the definitions or ends with the same
fault (`Arena.ofDefs_eq`). -/

namespace EntityGen

theorem firstFault?_congr {seen seen' : List String} (h : ∀ name, name ∈ seen ↔ name ∈ seen')
    (cs : List StubClass) : firstFault? seen cs = firstFault? seen' cs := by
  induction cs generalizing seen seen' with
  | nil => rfl
  | cons c cs ih =>
    have hcontains : seen.contains c.qualifiedName = seen'.contains c.qualifiedName := by
      simp [h]
    have hmore : ∀ name, name ∈ c.qualifiedName :: seen ↔ name ∈ c.qualifiedName :: seen' := by
      simp [h]
    rw [firstFault?, firstFault?, hcontains, ih hmore]

namespace Arena

variable {a a' : Arena} {c o : StubClass} {cs : List StubClass}

/-! ## Pushing classes -/

/-- The arena with classes behind the others, one after the other. -/
def pushAll (a : Arena) : List StubClass → Except ModelFault Arena
  | [] => .ok a
  | c :: cs =>
    if Text.allBlank c.name then .error .emptyName
    else if a.index.contains c.qualifiedName then .error (.duplicate c.qualifiedName)
    else (a.push c).pushAll cs

theorem pushAll_append (a : Arena) (cs ds : List StubClass) :
    a.pushAll (cs ++ ds) = a.pushAll cs >>= fun a => a.pushAll ds := by
  induction cs generalizing a with
  | nil => rfl
  | cons c cs ih =>
    rw [List.cons_append, pushAll, pushAll]
    split
    · rfl
    · split
      · rfl
      · exact ih (a.push c)

theorem classes_of_pushAll (h : a.pushAll cs = .ok a') : a'.classes = a.classes ++ cs := by
  induction cs generalizing a with
  | nil =>
    cases h
    simp
  | cons c cs ih =>
    rw [pushAll] at h
    split at h
    · cases h
    · split at h
      · cases h
      · rw [ih h, push, List.append_assoc]
        rfl

/-- Classes can be pushed unless one has a fault. -/
theorem pushAll_eq_firstFault? (a : Arena) (cs : List StubClass) :
    (a.pushAll cs).map (·.classes) =
      match firstFault? a.index.keys cs with
      | some fault => .error fault
      | none => .ok (a.classes ++ cs) := by
  induction cs generalizing a with
  | nil => simp [pushAll, firstFault?, Except.map]
  | cons c cs ih =>
    rw [pushAll, firstFault?]
    split
    · rfl
    · have hcontains :
          a.index.contains c.qualifiedName = a.index.keys.contains c.qualifiedName := by
        rw [Bool.eq_iff_iff, NameMap.contains_iff_mem_keys, List.contains_iff_mem]
      rw [hcontains]
      split
      · rfl
      · have hkeys : ∀ name, name ∈ (a.push c).index.keys ↔
            name ∈ c.qualifiedName :: a.index.keys := by
          intro name
          rw [← NameMap.contains_iff_mem_keys, NameMap.contains, push, NameMap.get?_insert,
            List.mem_cons, ← NameMap.contains_iff_mem_keys, NameMap.contains]
          by_cases h : name = c.qualifiedName <;> simp [h]
        rw [ih, firstFault?_congr hkeys, push, List.append_assoc]
        rfl

/-! ## The index -/

/-- The index leads from each qualified name to the class that has it. -/
def Indexed (a : Arena) : Prop :=
  ∀ name id, a.index.get? name = some id ↔ ∃ c, a.classes[id]? = some c ∧ c.qualifiedName = name

theorem Indexed.push (h : a.Indexed) (hnew : a.index.contains c.qualifiedName = false) :
    (a.push c).Indexed := by
  intro name id
  rw [Arena.push, NameMap.get?_insert, List.getElem?_append]
  by_cases hname : name = c.qualifiedName
  · rw [if_pos hname]
    constructor
    · intro hid
      cases hid
      exact ⟨c, by simp, hname.symm⟩
    · rintro ⟨c', hc', hname'⟩
      split at hc'
      · -- an older class of this name would be in the index
        have hold := (h name id).2 ⟨c', hc', hname'⟩
        rw [NameMap.contains, ← hname, hold] at hnew
        cases hnew
      · next hlt =>
        have hid : id - a.classes.length = 0 := by
          by_contra hne
          obtain ⟨k, hk⟩ := Nat.exists_eq_succ_of_ne_zero hne
          rw [hk] at hc'
          cases hc'
        have hid : a.classes.length = id := by omega
        rw [hid]
  · rw [if_neg hname, h name id]
    constructor
    · rintro ⟨c', hc', hname'⟩
      refine ⟨c', ?_, hname'⟩
      rw [if_pos (List.getElem?_eq_some_iff.1 hc').1]
      exact hc'
    · rintro ⟨c', hc', hname'⟩
      refine ⟨c', ?_, hname'⟩
      split at hc'
      · exact hc'
      · cases hk : id - a.classes.length with
        | zero =>
          rw [hk] at hc'
          cases hc'
          exact absurd hname'.symm hname
        | succ k =>
          rw [hk] at hc'
          cases hc'

theorem Indexed.pushAll (h : a.Indexed) (hcs : a.pushAll cs = .ok a') : a'.Indexed := by
  induction cs generalizing a with
  | nil =>
    cases hcs
    exact h
  | cons c cs ih =>
    rw [Arena.pushAll] at hcs
    split at hcs
    · cases hcs
    · split at hcs
      · cases hcs
      · next hnew => exact ih (h.push (by simpa using hnew)) hcs

theorem indexed_empty : empty.Indexed := by
  intro name id
  simp [empty]

/-! ## Lists of nested classes -/

/-- The arena with more classes in the list of their owner. -/
def addAllNested (a : Arena) (owner : Nat) (ids : List Nat) : Arena :=
  { a with classes := a.classes.modify owner fun c => { c with nested := c.nested ++ ids } }

theorem addAllNested_nil (a : Arena) (owner : Nat) : a.addAllNested owner [] = a := by
  have hid : (fun c : StubClass => { c with nested := c.nested ++ [] }) = id := by
    funext c
    simp
  rw [addAllNested, hid, List.modify_id]

theorem addAllNested_cons (a : Arena) (owner child : Nat) (ids : List Nat) :
    a.addAllNested owner (child :: ids) =
      (a.addAllNested owner [child]).addAllNested owner ids := by
  simp [addAllNested, List.modify_modify_eq, Function.comp_def]

theorem modify_append {α : Type} (f : α → α) {n : Nat} {xs : List α} (h : n < xs.length)
    (ys : List α) : (xs ++ ys).modify n f = xs.modify n f ++ ys := by
  rw [List.modify_eq_take_cons_drop h, List.modify_eq_take_cons_drop (by simp; omega)]
  simp [List.take_append_of_le_length (Nat.le_of_lt h), List.drop_append_of_le_length h,
    List.getElem_append_left h]

theorem push_addAllNested {owner : Nat} (h : owner < a.classes.length) (ids : List Nat) :
    (a.addAllNested owner ids).push c = (a.push c).addAllNested owner ids := by
  simp [addAllNested, push, modify_append _ h]

/-- Lists of older classes have no part in what is pushed. -/
theorem pushAll_addAllNested {owner : Nat} (h : owner < a.classes.length) (ids : List Nat) :
    (a.addAllNested owner ids).pushAll cs = (·.addAllNested owner ids) <$> a.pushAll cs := by
  induction cs generalizing a with
  | nil => rfl
  | cons c cs ih =>
    rw [pushAll, pushAll, push_addAllNested h, ih (by simp [push]; omega)]
    show (if _ then _ else if a.index.contains c.qualifiedName then _ else _) = _
    split
    · rfl
    · split <;> rfl

/-- A class that is pushed empty and filled later is a class pushed with its list. -/
theorem push_filled {n : Nat} (h : n = a.classes.length) (c : StubClass) :
    (a.push { c with nested := [] }).addAllNested n c.nested = a.push c := by
  have hmodify : (a.classes ++ [{ c with nested := [] }]).modify a.classes.length
      (fun d => { d with nested := d.nested ++ c.nested }) = a.classes ++ [c] := by
    rw [List.modify_eq_take_cons_drop (by simp)]
    simp
  subst h
  simp only [addAllNested, push, hmodify]

/-! ## Inserting definitions -/

/-- The arena has a class with the number and the names of `owner`. -/
def HasOwner (a : Arena) (owner : Option StubClass) : Prop :=
  ∀ o, owner = some o → ∃ c, a.classes[o.id]? = some c ∧ c.package = o.package ∧
    c.qualifiedName = o.qualifiedName ∧ c.binaryName = o.binaryName

theorem nextClass_eq {owner : Option StubClass} (h : a.HasOwner owner) (d : ClassDef) :
    a.nextClass (owner.map (·.id)) d = { d.classAt owner a.classes.length with nested := [] } := by
  cases owner with
  | none => rfl
  | some o =>
    obtain ⟨c, hc, hpackage, hqualified, hbinary⟩ := h o rfl
    simp [nextClass, ClassDef.classAt, hc, ClassDef.names, hpackage, hqualified, hbinary]

theorem HasOwner.pushAll {owner : Option StubClass} (h : a.HasOwner owner)
    (hcs : a.pushAll cs = .ok a') : a'.HasOwner owner := by
  intro o ho
  obtain ⟨c, hc, hnames⟩ := h o ho
  refine ⟨c, ?_, hnames⟩
  rw [classes_of_pushAll hcs, List.getElem?_append_left (List.getElem?_eq_some_iff.1 hc).1, hc]

theorem HasOwner.addNested {owner : Option StubClass} (h : a.HasOwner owner) (n child : Nat) :
    (a.addNested n child).HasOwner owner := by
  intro o ho
  obtain ⟨c, hc, hnames⟩ := h o ho
  simp only [Arena.addNested, List.getElem?_modify, hc]
  split
  · exact ⟨_, rfl, hnames⟩
  · exact ⟨_, rfl, hnames⟩

theorem hasOwner_push (hid : c.id = a.classes.length) :
    (a.push { c with nested := [] }).HasOwner (some c) := by
  intro o ho
  cases ho
  exact ⟨{ c with nested := [] }, by simp [push, hid], rfl, rfl, rfl⟩

theorem length_layout (owner : Option StubClass) (id : Nat) (d : ClassDef) :
    (d.layout owner id).length = d.size := by
  rw [← List.length_map (·.id), ClassDef.ids_layout, List.length_range']

mutual

theorem insert_eq (owner : Option StubClass) : ∀ (d : ClassDef) (a : Arena), a.HasOwner owner →
    a.insert (owner.map (·.id)) d =
      (fun a' => (a', a.classes.length)) <$> a.pushAll (d.layout owner a.classes.length)
  | ⟨package, name, isInterface, superclass, fields, methods, nested⟩, a, h => by
    rw [insert, ClassDef.layout, pushAll, nextClass_eq h]
    generalize hc :
      ClassDef.classAt ⟨package, name, isInterface, superclass, fields, methods, nested⟩
      owner a.classes.length = c
    have hid : c.id = a.classes.length := by rw [← hc]; rfl
    obtain rfl : name = c.name := by rw [← hc]; rfl
    have hnested : c.nested = ClassDef.idsFrom (a.classes.length + 1) nested := by rw [← hc]; rfl
    have hlength : (a.push { c with nested := [] }).classes.length = a.classes.length + 1 := by
      simp [push]
    have hfill := insertAll_eq c nested (a.push { c with nested := [] }) (hasOwner_push hid)
    rw [hlength, ← hnested, ← pushAll_addAllNested (by omega), push_filled hid] at hfill
    have hfilled := (congrArg (fun n => insertAll _ n nested) hid.symm).trans hfill
    dsimp only at hfilled ⊢
    rw [hfilled]
    split
    · rfl
    · split <;> rfl

/-- Inserting definitions pushes the classes of their layout and lists them with their owner. -/
theorem insertAll_eq (o : StubClass) : ∀ (ds : List ClassDef) (a : Arena), a.HasOwner (some o) →
    a.insertAll o.id ds =
      (·.addAllNested o.id (ClassDef.idsFrom a.classes.length ds)) <$>
        a.pushAll (ClassDef.layoutAll (some o) a.classes.length ds)
  | [], a, h => by
    rw [insertAll, ClassDef.layoutAll, ClassDef.idsFrom, pushAll]
    show Except.ok a = Except.ok (a.addAllNested o.id [])
    rw [addAllNested_nil]
  | d :: ds, a, h => by
    have hfirst := insert_eq (some o) d a h
    rw [Option.map_some] at hfirst
    rw [insertAll, hfirst, ClassDef.layoutAll, pushAll_append, ClassDef.idsFrom]
    cases hp : a.pushAll (d.layout (some o) a.classes.length) with
    | error fault => rfl
    | ok a' =>
      have hlt : o.id < a'.classes.length := by
        obtain ⟨c, hc, -⟩ := h.pushAll hp o rfl
        exact (List.getElem?_eq_some_iff.1 hc).1
      have hlength : (a'.addNested o.id a.classes.length).classes.length =
          a.classes.length + d.size := by
        simp [addNested, classes_of_pushAll hp, length_layout]
      have hrest := insertAll_eq o ds (a'.addNested o.id a.classes.length)
        ((h.pushAll hp).addNested o.id a.classes.length)
      rw [hlength] at hrest
      show (a'.addNested o.id a.classes.length).insertAll o.id ds = _ <$> a'.pushAll _
      have hadd : a'.addNested o.id a.classes.length =
          a'.addAllNested o.id [a.classes.length] := rfl
      rw [hrest, hadd, pushAll_addAllNested hlt]
      cases a'.pushAll (ClassDef.layoutAll (some o) (a.classes.length + d.size) ds) with
      | error fault => rfl
      | ok filled =>
        exact congrArg Except.ok (addAllNested_cons ..).symm

end

/-! ## Models -/

theorem foldlM_insert_eq (defs : List ClassDef) (a : Arena) :
    defs.foldlM (fun a d => (·.1) <$> a.insert none d) a =
      a.pushAll (ClassDef.layoutAll none a.classes.length defs) := by
  induction defs generalizing a with
  | nil => rw [List.foldlM_nil, ClassDef.layoutAll, pushAll]; rfl
  | cons d defs ih =>
    have hfirst := insert_eq none d a nofun
    rw [Option.map_none] at hfirst
    rw [List.foldlM_cons, hfirst, ClassDef.layoutAll, pushAll_append]
    cases hp : a.pushAll (d.layout none a.classes.length) with
    | error fault => rfl
    | ok a' =>
      have hlength : a'.classes.length = a.classes.length + d.size := by
        simp [classes_of_pushAll hp, length_layout]
      show defs.foldlM _ a' = a'.pushAll _
      rw [ih, hlength]

theorem ofDefs_eq_pushAll (defs : List ClassDef) :
    ofDefs defs = empty.pushAll (ClassDef.layoutAll none 0 defs) :=
  foldlM_insert_eq defs empty

/-- An arena makes the class set of the definitions, or ends with the same fault. -/
theorem ofDefs_eq (defs : List ClassDef) : (ofDefs defs).map toSet = ClassSet.ofDefs defs := by
  have hclasses := pushAll_eq_firstFault? empty (ClassDef.layoutAll none 0 defs)
  have hkeys : empty.index.keys = [] := rfl
  rw [← ofDefs_eq_pushAll, hkeys] at hclasses
  unfold ClassSet.ofDefs
  dsimp only
  cases hfault : firstFault? [] (ClassDef.layoutAll none 0 defs) with
  | some fault =>
    rw [hfault] at hclasses
    cases h : ofDefs defs with
    | error fault' =>
      rw [h] at hclasses
      cases hclasses
      rfl
    | ok a =>
      rw [h] at hclasses
      cases hclasses
  | none =>
    rw [hfault] at hclasses
    cases h : ofDefs defs with
    | error fault =>
      rw [h] at hclasses
      cases hclasses
    | ok a =>
      rw [h] at hclasses
      exact congrArg Except.ok (congrArg ClassSet.mk (Except.ok.inj hclasses))

theorem indexed_ofDefs {defs : List ClassDef} (h : ofDefs defs = .ok a) : a.Indexed := by
  rw [ofDefs_eq_pushAll] at h
  exact indexed_empty.pushAll h

end Arena
end EntityGen
