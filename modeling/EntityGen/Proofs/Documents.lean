import EntityGen.Field.Descriptor
import EntityGen.Proofs.NameMap
import EntityGen.Stub.ClassSet

/-! # What is written is read back

Class definitions and field descriptors are written as records. Some members are left out where
there is nothing to say, and a reader takes the default for a member that it does not find.

**Main** (`documents_read_back`): what is written of a definition, a list of definitions or a
descriptor is read back as it was.

* `Json.ReadsBack`: a reader finds what was written, if it may descend as deep as that is.
* `Json.readsBack_listOf`, `Json.readsBack_recordOf`: arrays and records are read back if their
  items and members are.
* `ClassDef.readsBack`, `FieldDescriptor.readsBack`: one for each kind of record. -/

namespace EntityGen

namespace Json

variable {α : Type}

/-! ## Depth -/

theorem depth_le_depthOfItems {item : Json} {items : List Json} (h : item ∈ items) :
    item.depth ≤ depthOfItems items := by
  induction items with
  | nil => cases h
  | cons first items ih =>
    rw [depthOfItems]
    rcases List.mem_cons.1 h with rfl | h
    · exact Nat.le_max_left _ _
    · exact Nat.le_trans (ih h) (Nat.le_max_right _ _)

theorem depth_le_depthOfMembers {name : Option String} {value : Json}
    {members : List (Option String × Json)} (h : (name, value) ∈ members) :
    value.depth ≤ depthOfMembers members := by
  induction members with
  | nil => cases h
  | cons first members ih =>
    obtain ⟨key, firstValue⟩ := first
    rw [depthOfMembers]
    rcases List.mem_cons.1 h with heq | h
    · cases heq
      exact Nat.le_max_left _ _
    · exact Nat.le_trans (ih h) (Nat.le_max_right _ _)

theorem one_le_depth_array (items : List Json) : 1 ≤ (array items).depth :=
  Nat.le_add_left 1 _

/-- The members of a record are no deeper than `levels`. -/
def Record.Within (r : Record) (levels : Nat) : Prop :=
  ∀ name value, r.lookup name = some value → value.depth ≤ levels

theorem mem_of_lookup {r : Record} {name : String} {value : Json}
    (h : r.lookup name = some value) : (name, value) ∈ r := by
  induction r with
  | nil => cases h
  | cons m r ih =>
    rw [NameMap.lookup_cons_eq_ite] at h
    split at h
    · next heq =>
      cases h
      exact heq ▸ List.mem_cons_self
    · exact List.mem_cons_of_mem m (ih h)

/-- A reader that may descend as deep as a record goes into its members with one level less. -/
theorem Record.exists_within {r : Record} {levels : Nat} (h : (ofMembers r).depth ≤ levels) :
    ∃ inner, levels = inner + 1 ∧ r.Within inner := by
  cases levels with
  | zero => exact absurd h (Nat.not_succ_le_zero _)
  | succ inner =>
    refine ⟨inner, rfl, fun name value hvalue => ?_⟩
    have hmem : (some name, value) ∈ r.map fun m => (some m.1, m.2) :=
      List.mem_map_of_mem (f := fun m : String × Json => (some m.1, m.2)) (mem_of_lookup hvalue)
    exact Nat.le_trans (depth_le_depthOfMembers hmem) (Nat.le_of_succ_le_succ h)

/-! ## Values -/

@[simp] theorem text?_ofText (s : String) : text? (ofText s) = some s := rfl

@[simp] theorem bool?_bool (b : Bool) : bool? (bool b) = some b := rfl

theorem nullable_ofText (read : Json → Option α) (s : String) :
    nullable read (ofText s) = (read (ofText s)).map some := rfl

theorem nullable_ofOption (o : Option String) : nullable text? (ofOption o) = some o := by
  cases o <;> rfl

theorem tagOf_ofText (ofTag? : String → Option α) (levels : Nat) (tag : String) :
    tagOf ofTag? levels (ofText tag) = ofTag? tag := by
  cases levels <;> rfl

/-- What is written of `a` is read back by a reader that may descend as deep as it is. -/
def ReadsBack (read : Nat → Json → Option α) (written : Json) (a : α) : Prop :=
  ∀ levels, written.depth ≤ levels → read levels written = some a

theorem mapM_map_eq_some {β : Type} {read : β → Option α} {write : α → β} {as : List α}
    (h : ∀ a ∈ as, read (write a) = some a) : (as.map write).mapM read = some as := by
  induction as with
  | nil => rfl
  | cons a as ih =>
    rw [List.map_cons, List.mapM_cons, h a List.mem_cons_self,
      ih fun b hb => h b (List.mem_cons_of_mem a hb)]
    rfl

theorem readsBack_listOf {read : Nat → Json → Option α} {write : α → Json} {as : List α}
    (h : ∀ a ∈ as, ReadsBack read (write a) a) :
    ReadsBack (listOf read) (array (as.map write)) as := by
  intro levels hdepth
  obtain ⟨inner, rfl⟩ := Nat.exists_eq_add_of_le' (Nat.le_trans (one_le_depth_array _) hdepth)
  refine mapM_map_eq_some fun a ha => h a ha inner ?_
  have hitem : (write a).depth ≤ depthOfItems (as.map write) :=
    depth_le_depthOfItems (List.mem_map_of_mem ha)
  exact Nat.le_trans hitem (Nat.le_of_succ_le_succ hdepth)

theorem readsBack_textsOf (texts : List String) : ReadsBack textsOf (ofTexts texts) texts :=
  readsBack_listOf fun _ _ _ _ => rfl

/-! ## Records -/

theorem named?_map (r : Record) : named? (r.map fun m => (some m.1, m.2)) = some r :=
  mapM_map_eq_some fun _ _ => rfl

/-- Declared members that are written in their order make up the record that is read. -/
theorem bind_record? {declared : List String} {members : Record}
    (h : (members.map (·.1)).Sublist declared) (hdeclared : declared.Nodup)
    (read : Record → Option α) :
    (record? declared (ofMembers members)).bind read = read members := by
  have hknown : members.filter (fun m => declared.contains m.1) = members :=
    List.filter_eq_self.2 fun m hm => List.contains_iff_mem.2 (h.subset (List.mem_map_of_mem hm))
  simp only [record?, ofMembers, named?_map, Option.bind_eq_bind, Option.bind_some, hknown]
  rw [if_pos (hdeclared.sublist h), Option.bind_some]

theorem readsBack_recordOf {declared : List String} {read : Nat → Record → Option α}
    {members : Record} {a : α} (h : (members.map (·.1)).Sublist declared)
    (hdeclared : declared.Nodup)
    (hread : ∀ levels, members.Within levels → read levels members = some a) :
    ReadsBack (recordOf declared read) (ofMembers members) a := by
  intro levels hdepth
  obtain ⟨inner, rfl, hwithin⟩ := Record.exists_within hdepth
  exact (bind_record? h hdeclared _).trans (hread inner hwithin)

end Json

open Json

/-! ## Class definitions -/

theorem Implementation.readsBack (i : Implementation) :
    ReadsBack Implementation.read i.toJson i := by
  obtain ⟨name, type⟩ := i
  cases type with
  | none => exact readsBack_recordOf (.cons_cons _ (.cons _ .slnil)) (by decide) fun _ _ => rfl
  | some type => exact readsBack_recordOf (.refl _) (by decide) fun _ _ => rfl

theorem FieldDef.readsBack (f : FieldDef) : ReadsBack FieldDef.read f.toJson f := by
  obtain ⟨name, type, nameOverride, implementations⟩ := f
  refine readsBack_recordOf ?_ (by decide) fun levels hlevels => ?_
  · cases nameOverride <;> cases implementations <;> simp [memberIfSome]
  · cases implementations with
    | nil => cases nameOverride <;> rfl
    | cons i is =>
      have hitems : listOf Implementation.read levels
          (array ((i :: is).map Implementation.toJson)) = some (i :: is) :=
        readsBack_listOf (fun i _ => Implementation.readsBack i) levels
          (hlevels "implementations" _ (by cases nameOverride <;> rfl))
      rw [List.map_cons] at hitems
      cases nameOverride <;>
        simp [Record.required, Record.optional, Record.withDefault, memberIfSome,
          List.lookup_cons, List.lookup_nil, nullable_ofText, hitems]

theorem MethodDef.readsBack (m : MethodDef) : ReadsBack MethodDef.read m.toJson m := by
  refine readsBack_recordOf (.refl _) (by decide) fun levels hlevels => ?_
  have hparameters := readsBack_textsOf m.parameters levels (hlevels "parameters" _ rfl)
  simp [Record.required, Record.withDefault, List.lookup_cons, hparameters]

namespace ClassDef

mutual

/-- A class definition is read back, however deep its nested classes lie. -/
theorem readsBack : ∀ d : ClassDef, ReadsBack ClassDef.read d.toJson d
  | ⟨package, name, isInterface, superclass, fields, methods, nested⟩ => by
    intro levels hdepth
    rw [toJson] at hdepth ⊢
    obtain ⟨levels, rfl, hlevels⟩ := Record.exists_within hdepth
    have hfields := readsBack_listOf (fun f _ => FieldDef.readsBack f) levels
      (hlevels "fields" (array (fields.map FieldDef.toJson)) rfl)
    have hmethods := readsBack_listOf (fun m _ => MethodDef.readsBack m) levels
      (hlevels "methods" (array (methods.map MethodDef.toJson)) rfl)
    have hdeep := hlevels "nested" (array (toJsonAll nested)) rfl
    -- the array of nested classes takes a level, so there is one left for it
    obtain ⟨inner, rfl⟩ := Nat.exists_eq_add_of_le' (Nat.le_trans (one_le_depth_array _) hdeep)
    have hnested := mapM_toJsonAll nested inner (Nat.le_of_succ_le_succ hdeep)
    refine (bind_record? ?_ (by decide) _).trans ?_
    · exact .refl _
    · simp [ofRecord, Record.required, Record.optional, Record.withDefault, List.lookup_cons,
        nullable_ofOption, hfields, hmethods, hnested]

theorem mapM_toJsonAll : ∀ (ds : List ClassDef) (levels : Nat),
    depthOfItems (toJsonAll ds) ≤ levels → (toJsonAll ds).mapM (read levels) = some ds
  | [], _, _ => rfl
  | d :: ds, levels, hdepth => by
    rw [toJsonAll, depthOfItems, Nat.max_le] at hdepth
    rw [toJsonAll, List.mapM_cons, readsBack d levels hdepth.1,
      mapM_toJsonAll ds levels hdepth.2]
    rfl

end

theorem readsBack_readAll (defs : List ClassDef) :
    ReadsBack readAll (array (defs.map toJson)) defs :=
  readsBack_listOf fun d _ => readsBack d

end ClassDef

/-! ## Descriptors -/

namespace FieldDescriptor

theorem names_toMembers (d : FieldDescriptor) : (d.toMembers.map (·.1)).Sublist members := by
  obtain ⟨kind, resolvedType, stubType, stubSimpleName, hasIdentity, fieldCount, isKnownEntity,
    isGenericInner, cast, implementations, accessor⟩ := d
  cases hempty : implementations.isEmpty <;> cases cast <;> cases accessor <;>
    simp [toMembers, plainMembers, members, hempty]

/-- The set of implementations is read back, from nothing if it is empty. -/
theorem withDefault_implementations (d : FieldDescriptor) {levels : Nat}
    (hlevels : Record.Within d.toMembers levels) :
    (Record.withDefault d.toMembers "polymorphic_implementations" ∅ fun names =>
      (textsOf levels names).map NameSet.ofList) = some d.implementations := by
  obtain ⟨kind, resolvedType, stubType, stubSimpleName, hasIdentity, fieldCount, isKnownEntity,
    isGenericInner, cast, implementations, accessor⟩ := d
  cases hempty : implementations.isEmpty with
  | true =>
    obtain rfl : implementations = ∅ := NameMap.ext (List.isEmpty_iff.1 hempty)
    cases cast <;> cases accessor <;>
      simp [toMembers, plainMembers, Record.withDefault, List.lookup_cons, List.lookup_nil, hempty]
  | false =>
    simp only [toMembers, plainMembers, hempty] at hlevels ⊢
    have hread := readsBack_textsOf implementations.keys levels
      (hlevels "polymorphic_implementations" _ (by cases cast <;> rfl))
    cases cast <;> cases accessor <;>
      simp [Record.withDefault, List.lookup_cons, hread, NameSet.ofList_keys]

/-- A descriptor's record is read back if the count of fields is one that can be read. -/
theorem read_toJson (d : FieldDescriptor) {levels : Nat} (hdepth : d.toJson.depth ≤ levels) :
    read levels d.toJson = if d.fieldCount < UInt64.size then some d else none := by
  obtain ⟨levels, rfl, hlevels⟩ := Record.exists_within hdepth
  have himplementations := d.withDefault_implementations hlevels
  refine (bind_record? d.names_toMembers (by decide) _).trans ?_
  obtain ⟨kind, resolvedType, stubType, stubSimpleName, hasIdentity, fieldCount, isKnownEntity,
    isGenericInner, cast, implementations, accessor⟩ := d
  simp only [himplementations]
  by_cases hcount : fieldCount < UInt64.size <;> cases hempty : implementations.isEmpty <;>
    cases cast <;> cases accessor <;>
    simp [toMembers, plainMembers, Record.required, Record.optional, Record.withDefault,
      List.lookup_cons, List.lookup_nil, nullable_ofOption, nullable_ofText, tagOf_ofText,
      FieldKind.ofTag?_tag, IdentityCast.ofTag?_tag, count?, hempty, hcount]

end FieldDescriptor

/-! ## All documents -/

/-- Definitions and descriptors are read back as they were written, and the definitions that are
read from a list make up the same class set, or are refused alike. A descriptor counts fields in a
machine word; a greater count would not be read. -/
theorem documents_read_back :
    (∀ d : ClassDef, ClassDef.ofJson? d.toJson = some d) ∧
    (∀ d : FieldDescriptor,
      FieldDescriptor.ofJson? d.toJson = some d ↔ d.fieldCount < UInt64.size) ∧
    (∀ defs : List ClassDef,
      let written := array (defs.map ClassDef.toJson)
      ClassDef.readAll written.depth written = some defs ∧
        (ClassDef.readAll written.depth written).map ClassSet.ofDefs =
          some (ClassSet.ofDefs defs)) := by
  refine ⟨fun d => d.readsBack _ (Nat.le_refl _), fun d => ?_, fun defs => ?_⟩
  · rw [FieldDescriptor.ofJson?, d.read_toJson (Nat.le_refl _)]
    simp
  · have hread := ClassDef.readsBack_readAll defs _ (Nat.le_refl _)
    exact ⟨hread, by rw [hread, Option.map_some]⟩

end EntityGen
