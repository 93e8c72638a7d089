import EntityGen.Graph
import EntityGen.Proofs.Field.Map
import Mathlib.Data.List.Nodup

/-! # Which accessor a field comes from

Of the accessors of a class those count whose fields are kept (`keptAccessors`), and of several that
give one name the first (`firstAccessors`); the others have no part in the field map, nor in how it
fails.

* `result_addFields`: what a run over some accessors makes of a map, by induction on the accessors.
* `get?_of_fieldMap`, `fieldMap_eq_error_iff`: the same for the whole field map.
* `exists_first_of_get?`, `get?_of_mem_firstAccessors`: the fields are those of the first accessors.

**The first accessor of a name makes its field** (`first_accessor_wins`). -/

namespace EntityGen

/-! ## The first element for each key -/

section
variable {α : Type} (key : α → String) {l : List α}

/-- The first element for each key, in order. -/
def firstOfEach : List α → List α
  | [] => []
  | x :: l => x :: (firstOfEach l).filter (key · ≠ key x)

variable {key}

theorem mem_of_mem_firstOfEach {x : α} (h : x ∈ firstOfEach key l) : x ∈ l := by
  induction l with
  | nil => exact h
  | cons y l ih =>
    rcases List.mem_cons.1 h with rfl | h
    · exact List.mem_cons_self
    · exact List.mem_cons_of_mem _ (ih (List.mem_filter.1 h).1)

theorem firstOfEach_nodup : ((firstOfEach key l).map key).Nodup := by
  induction l with
  | nil => exact .nil
  | cons x l ih =>
    refine List.nodup_cons.2 ⟨fun hx => ?_, ih.sublist (List.filter_sublist.map key)⟩
    obtain ⟨y, hy, heq⟩ := List.mem_map.1 hx
    have hne := (List.mem_filter.1 hy).2
    simp [heq] at hne

/-- The first elements for a key are found where all are searched. -/
theorem find?_firstOfEach (k : String) :
    (firstOfEach key l).find? (key · = k) = l.find? (key · = k) := by
  induction l with
  | nil => rfl
  | cons x l ih =>
    rw [firstOfEach, List.find?_cons, List.find?_cons]
    split
    · rfl
    · next hx =>
      -- elements that are left out for the sake of `x` have another key
      have hne : key x ≠ k := by simpa using hx
      rw [← ih, List.find?_filter]
      congr 1
      funext y
      by_cases hy : key y = k
      · simp [hy, Ne.symm hne]
      · simp [hy]

theorem mem_firstOfEach_iff {x : α} :
    x ∈ firstOfEach key l ↔ l.find? (key · = key x) = some x := by
  rw [← find?_firstOfEach]
  constructor
  · intro hx
    have hsome : ((firstOfEach key l).find? (key · = key x)).isSome :=
      List.find?_isSome.2 ⟨x, hx, decide_eq_true rfl⟩
    obtain ⟨y, hy⟩ := Option.isSome_iff_exists.1 hsome
    have hkey : key y = key x := by simpa using List.find?_some hy
    rw [hy, List.inj_on_of_nodup_map firstOfEach_nodup (List.mem_of_find?_eq_some hy) hx hkey]
  · exact List.mem_of_find?_eq_some

end

/-- What the types in a class are resolved against. -/
def ClassGraph.resolverOf (g : ClassGraph) (c : StubClass) : Resolver :=
  g.resolver (g.classes.outermost c)

namespace Resolver

variable {r : Resolver} {c : StubClass} {fields : FieldMap} {name : String} {d : FieldDescriptor}

/-! ## Accessors and their fields -/

section
variable (r : Resolver) (c : StubClass) (method : MethodDef)

/-- The name of the field that an accessor of `c` gives. -/
def nameOf : String := fieldName (r.classes.declaredFields c) method.name

/-- Whether the field of an accessor is the identity, and of a type that has to be converted. -/
def needsCast : Bool :=
  Text.sameIgnoringCase (r.nameOf c method) r.identityName &&
    !IdentityCast.sameType (r.descriptor method.returns).stubType r.identityType

/-- The conversion of an accessor's field, if it needs one and there is one. -/
def castFor : Option IdentityCast :=
  if r.needsCast c method then
    IdentityCast.between? (r.descriptor method.returns).stubType r.identityType
  else none

/-- Whether the field of an accessor needs a conversion that there is not. -/
def lacksCast : Bool :=
  r.needsCast c method &&
    (IdentityCast.between? (r.descriptor method.returns).stubType r.identityType).isNone

/-- The error of an accessor whose field lacks its conversion. -/
def castError : GenerationError :=
  .unmappedCast c.qualifiedName (r.nameOf c method) (r.descriptor method.returns).stubType
    r.identityType

/-- The implementations that the declared field of an accessor allows; plain values have none. -/
def implementationsOf : NameSet :=
  if (r.descriptor method.returns).kind.isPlain then ∅
  else NameSet.ofList
    ((declaredField? (r.classes.declaredFields c) method.name).elim [] (·.concreteImplementations))

/-- The field that an accessor of `c` gives: the descriptor of its return type, with what the
declared field allows, the conversion of an identity and the accessor's name. -/
def fieldOf : FieldDescriptor :=
  { r.descriptor method.returns with
    cast := r.castFor c method
    implementations := r.implementationsOf c method
    accessor := some method.name }

/-- The accessors whose fields are kept. -/
def keptOf (accessors : List (StubClass × MethodDef)) : List MethodDef :=
  (accessors.map (·.2)).filter fun method => isKept (r.descriptor method.returns)

/-- The accessors of a class, own before inherited, whose fields are kept. -/
def keptAccessors : List MethodDef := r.keptOf (r.classes.visibleAccessors c)

/-- The kept accessors that are the first of their name. -/
def firstAccessors : List MethodDef := firstOfEach (r.nameOf c) (r.keptAccessors c)

end

section
variable (r : Resolver) (c : StubClass) (method : MethodDef)

@[simp] theorem kind_fieldOf :
    (r.fieldOf c method).kind = (r.descriptor method.returns).kind := by
  rw [fieldOf]

@[simp] theorem stubType_fieldOf :
    (r.fieldOf c method).stubType = (r.descriptor method.returns).stubType := by
  rw [fieldOf]

@[simp] theorem cast_fieldOf : (r.fieldOf c method).cast = r.castFor c method := by
  rw [fieldOf]

end

theorem castOf_eq (r : Resolver) (c : StubClass) (method : MethodDef) :
    r.castOf c (r.nameOf c method) (r.descriptor method.returns) =
      if r.lacksCast c method then .error (r.castError c method)
      else .ok (r.castFor c method) := by
  have hneeds : r.needsCast c method = (Text.sameIgnoringCase (r.nameOf c method) r.identityName &&
      !IdentityCast.sameType (r.descriptor method.returns).stubType r.identityType) := rfl
  unfold castOf lacksCast castFor castError
  rw [← hneeds]
  generalize r.descriptor method.returns = d
  cases r.needsCast c method with
  | false => rfl
  | true => cases IdentityCast.between? d.stubType r.identityType <;> rfl

/-- Return types say nothing of implementations. -/
theorem implementations_descriptor (r : Resolver) (returns : String) :
    (r.descriptor returns).implementations = ∅ := by
  rcases descriptor_cases r returns with h | h | ⟨element, -, h⟩ | ⟨-, -, h⟩
  · rw [h]
    rfl
  · rw [h]
    rfl
  · rw [h, array]
    split
    · rfl
    · split <;> rfl
  · rw [h]
    rfl

theorem fieldOf_eq (r : Resolver) (c : StubClass) (method : MethodDef) :
    { withImplementations (r.classes.declaredFields c) method.name
        (r.descriptor method.returns) with
      cast := r.castFor c method, accessor := some method.name } = r.fieldOf c method := by
  have hnone := implementations_descriptor r method.returns
  unfold fieldOf implementationsOf withImplementations
  generalize r.descriptor method.returns = d at hnone
  cases d with
  | mk =>
    subst hnone
    split
    · rfl
    · cases declaredField? (r.classes.declaredFields c) method.name <;> rfl

/-! ## Runs over accessors -/

section
variable (r : Resolver) (c : StubClass)

/-- The first accessors of their name whose fields a map does not have. -/
def newIn (fields : FieldMap) (accessors : List (StubClass × MethodDef)) : List MethodDef :=
  (firstOfEach (r.nameOf c) (r.keptOf accessors)).filter fun method =>
    !fields.contains (r.nameOf c method)

/-- The map with the fields of some accessors. -/
def insertAll (fields : FieldMap) (methods : List MethodDef) : FieldMap :=
  methods.foldl (fun fields method => fields.insert (r.nameOf c method) (r.fieldOf c method)) fields

end

theorem result_addField (r : Resolver) (c : StubClass) (fields : FieldMap) (owner : StubClass)
    (method : MethodDef) :
    (r.addField c (r.classes.declaredFields c) fields owner method).result =
      if isKept (r.descriptor method.returns) && !fields.contains (r.nameOf c method) then
        if r.lacksCast c method then .error (r.castError c method)
        else .ok (fields.insert (r.nameOf c method) (r.fieldOf c method))
      else .ok fields := by
  rw [addField_eq]
  dsimp only
  rw [← nameOf, castOf_eq]
  congr 1
  split
  · rfl
  · rw [← fieldOf_eq]
    rfl

theorem newIn_insert {accessors : List (StubClass × MethodDef)} (value : FieldDescriptor) :
    r.newIn c (fields.insert name value) accessors =
      (r.newIn c fields accessors).filter (r.nameOf c · ≠ name) := by
  unfold newIn
  rw [List.filter_filter]
  congr 1
  funext method
  by_cases h : r.nameOf c method = name <;> simp [NameMap.contains, NameMap.get?_insert, h]

theorem newIn_cons (fields : FieldMap) (owner : StubClass) (method : MethodDef)
    (accessors : List (StubClass × MethodDef)) :
    r.newIn c fields ((owner, method) :: accessors) =
      if isKept (r.descriptor method.returns) && !fields.contains (r.nameOf c method) then
        method :: (r.newIn c fields accessors).filter (r.nameOf c · ≠ r.nameOf c method)
      else r.newIn c fields accessors := by
  unfold newIn keptOf
  rw [List.map_cons, List.filter_cons]
  cases hkept : isKept (r.descriptor method.returns) with
  | false => rfl
  | true =>
    rw [if_pos rfl, firstOfEach, List.filter_cons, List.filter_filter, List.filter_filter]
    cases hold : fields.contains (r.nameOf c method) with
    | false => simp [Bool.and_comm]
    | true =>
      simp only [Bool.not_true, Bool.and_false, Bool.false_eq_true, if_false]
      refine List.filter_congr fun other _ => ?_
      by_cases h : r.nameOf c other = r.nameOf c method <;> simp [h, hold]

/-- A run over accessors adds the field of each first one that is new, unless one of these lacks its
cast: then it ends with the error of the first such. -/
theorem result_addFields (fields : FieldMap) (accessors : List (StubClass × MethodDef)) :
    (r.addFields c (r.classes.declaredFields c) fields accessors).result =
      match (r.newIn c fields accessors).find? (r.lacksCast c) with
      | some method => .error (r.castError c method)
      | none => .ok (r.insertAll c fields (r.newIn c fields accessors)) := by
  induction accessors generalizing fields with
  | nil => rfl
  | cons accessor accessors ih =>
    obtain ⟨owner, method⟩ := accessor
    have hstep := r.result_addField c fields owner method
    rw [newIn_cons, addFields]
    cases hnew : isKept (r.descriptor method.returns) && !fields.contains (r.nameOf c method) with
    | false =>
      rw [hnew, if_neg Bool.false_ne_true] at hstep
      rw [Diagnosed.bind_ok hstep]
      exact ih fields
    | true =>
      rw [hnew, if_pos rfl] at hstep
      rw [if_pos rfl, List.find?_cons]
      cases hlacks : r.lacksCast c method with
      | true =>
        rw [hlacks, if_pos rfl] at hstep
        rw [Diagnosed.bind_error hstep]
      | false =>
        rw [hlacks, if_neg Bool.false_ne_true] at hstep
        rw [Diagnosed.bind_ok hstep]
        dsimp only
        rw [ih, newIn_insert]
        rfl

/-! ## The field map -/

theorem newIn_empty : r.newIn c ∅ (r.classes.visibleAccessors c) = r.firstAccessors c :=
  List.filter_eq_self.2 fun _ _ => rfl

theorem result_fieldMap (r : Resolver) (c : StubClass) :
    (r.fieldMap c).result =
      match (r.firstAccessors c).find? (r.lacksCast c) with
      | some method => .error (r.castError c method)
      | none => .ok (r.insertAll c ∅ (r.firstAccessors c)) := by
  rw [fieldMap, result_addFields, newIn_empty]

theorem fieldMap_eq_error_iff {e : GenerationError} :
    (r.fieldMap c).result = .error e ↔
      ∃ method, (r.firstAccessors c).find? (r.lacksCast c) = some method ∧
        e = r.castError c method := by
  rw [result_fieldMap]
  cases (r.firstAccessors c).find? (r.lacksCast c) with
  | none => simp
  | some method => simp [eq_comm]

theorem mem_firstAccessors_iff {method : MethodDef} :
    method ∈ r.firstAccessors c ↔
      (r.keptAccessors c).find? (r.nameOf c · = r.nameOf c method) = some method :=
  mem_firstOfEach_iff

/-- A field map looks a name up among the kept accessors: the first of this name makes the field. -/
theorem get?_of_fieldMap (h : (r.fieldMap c).result = .ok fields) (name : String) :
    fields.get? name = ((r.keptAccessors c).find? (r.nameOf c · = name)).map (r.fieldOf c) := by
  have hfields : fields = r.insertAll c ∅ (r.firstAccessors c) := by
    rw [result_fieldMap] at h
    split at h
    · cases h
    · exact (Except.ok.inj h).symm
  have hnodup : ((r.firstAccessors c).map (r.nameOf c)).Nodup := firstOfEach_nodup
  rw [← find?_firstOfEach, hfields]
  change _ = ((r.firstAccessors c).find? _).map _
  cases hfind : (r.firstAccessors c).find? (r.nameOf c · = name) with
  | none =>
    refine NameMap.get?_foldl_insert_of_notMem _ _ fun hmem => ?_
    obtain ⟨method, hmethod, hname⟩ := List.mem_map.1 hmem
    exact List.find?_eq_none.1 hfind method hmethod (decide_eq_true hname)
  | some method =>
    have hname : r.nameOf c method = name := by simpa using List.find?_some hfind
    rw [← hname]
    exact NameMap.get?_foldl_insert_of_mem _ _ hnodup (List.mem_of_find?_eq_some hfind)

/-- A field map has the names of the kept accessors. -/
theorem mem_keys_iff (h : (r.fieldMap c).result = .ok fields) :
    name ∈ fields.keys ↔ ∃ method ∈ r.keptAccessors c, r.nameOf c method = name := by
  rw [← NameMap.contains_iff_mem_keys, NameMap.contains, get?_of_fieldMap h, Option.isSome_map,
    List.find?_isSome]
  simp only [decide_eq_true_eq]

/-- Every field is that of a first accessor. -/
theorem exists_first_of_get? (h : (r.fieldMap c).result = .ok fields)
    (hd : fields.get? name = some d) :
    ∃ method ∈ r.firstAccessors c, r.nameOf c method = name ∧ d = r.fieldOf c method := by
  rw [get?_of_fieldMap h, Option.map_eq_some_iff] at hd
  obtain ⟨method, hfirst, rfl⟩ := hd
  have hname : r.nameOf c method = name := by simpa using List.find?_some hfirst
  subst hname
  exact ⟨method, mem_firstAccessors_iff.2 hfirst, rfl, rfl⟩

/-- Every first accessor has its field. -/
theorem get?_of_mem_firstAccessors (h : (r.fieldMap c).result = .ok fields) {method : MethodDef}
    (hmem : method ∈ r.firstAccessors c) :
    fields.get? (r.nameOf c method) = some (r.fieldOf c method) := by
  rw [get?_of_fieldMap h, mem_firstAccessors_iff.1 hmem]
  rfl

/-- **The first accessor of a name makes its field.** The names of a field map are those of the kept
accessors, and each field is the one that the first kept accessor of its name gives. There is no
field map exactly if a first accessor lacks its cast, and then the error is about the first of
these. -/
theorem first_accessor_wins (r : Resolver) (c : StubClass) :
    (∀ fields, (r.fieldMap c).result = .ok fields →
      (∀ name, name ∈ fields.keys ↔ ∃ method ∈ r.keptAccessors c, r.nameOf c method = name) ∧
      ∀ name d, fields.get? name = some d →
        ∃ method, (r.keptAccessors c).find? (r.nameOf c · = name) = some method ∧
          d = r.fieldOf c method) ∧
    ((∃ e, (r.fieldMap c).result = .error e) ↔
      ∃ method, (r.keptAccessors c).find? (r.nameOf c · = r.nameOf c method) = some method ∧
        r.lacksCast c method = true) ∧
    ∀ e, (r.fieldMap c).result = .error e →
      ∃ method, (r.firstAccessors c).find? (r.lacksCast c) = some method ∧
        e = r.castError c method := by
  refine ⟨fun fields h => ⟨fun name => ?_, fun name d hd => ?_⟩, ?_, fun e h => ?_⟩
  · rw [← NameMap.contains_iff_mem_keys, NameMap.contains, get?_of_fieldMap h, Option.isSome_map,
      List.find?_isSome]
    simp only [decide_eq_true_eq]
  · rw [get?_of_fieldMap h] at hd
    obtain ⟨method, hmethod, rfl⟩ := Option.map_eq_some_iff.1 hd
    exact ⟨method, hmethod, rfl⟩
  · simp only [fieldMap_eq_error_iff, ← mem_firstAccessors_iff]
    constructor
    · rintro ⟨e, method, hfind, -⟩
      exact ⟨method, List.mem_of_find?_eq_some hfind, List.find?_some hfind⟩
    · rintro ⟨method, hmem, hlacks⟩
      obtain ⟨first, hfirst⟩ :=
        Option.isSome_iff_exists.1 (List.find?_isSome.2 ⟨method, hmem, hlacks⟩)
      exact ⟨_, first, hfirst, rfl⟩
  · exact fieldMap_eq_error_iff.1 h

/-- Tickets are numbered by text. Their code goes by the identity's name as well, and their records
have an identity that cannot be converted. -/
def desk : ClassGraph :=
  .build ⟨ClassDef.layoutAll none 0
    [⟨"a", "Ticket", false, some "a.Record", [⟨"code", "boolean", some "id", []⟩],
        [⟨"getId", [], "java.lang.String"⟩, ⟨"getCode", [], "boolean"⟩], []⟩,
      ⟨"a", "Record", false, none, [], [⟨"getId", [], "boolean"⟩], []⟩]⟩ {}

/-- What is first for the identity of a ticket and of a record. -/
theorem first_desk :
    (∃ c ∈ desk.classes.classes, c.qualifiedName = "a.Ticket" ∧
      (desk.fieldMap c).result.isOk = true ∧
      ((desk.resolverOf c).keptAccessors c).map ((desk.resolverOf c).nameOf c) =
        ["id", "id", "id"] ∧
      ∃ method ∈ c.accessors, method.name = "getId" ∧
        ((desk.resolverOf c).keptAccessors c).find? ((desk.resolverOf c).nameOf c · = "id") =
          some method ∧
        (desk.resolverOf c).castFor c method = some .toLong) ∧
    ∃ c ∈ desk.classes.classes, c.qualifiedName = "a.Record" ∧
      ∃ method ∈ c.accessors, (desk.resolverOf c).firstAccessors c = [method] ∧
        (desk.resolverOf c).lacksCast c method = true ∧
        (desk.resolverOf c).castError c method =
          .unmappedCast "a.Record" "id" "boolean" "java.lang.Long" := by
  decide +kernel

/-- Code and inherited identity of a ticket are of no account; a record has no field map. -/
theorem first_accessor_wins_desk :
    (∃ c ∈ desk.classes.classes, c.qualifiedName = "a.Ticket" ∧
      ((desk.resolverOf c).keptAccessors c).map ((desk.resolverOf c).nameOf c) =
        ["id", "id", "id"] ∧
      ∃ fields, (desk.fieldMap c).result = .ok fields ∧
        ∃ d, fields.get? "id" = some d ∧ d.accessor = some "getId" ∧ d.cast = some .toLong) ∧
    ∃ c ∈ desk.classes.classes, c.qualifiedName = "a.Record" ∧
      (desk.fieldMap c).result =
        .error (.unmappedCast "a.Record" "id" "boolean" "java.lang.Long") := by
  obtain ⟨⟨ticket, hticket, hname, hok, hnames, method, -, haccessor, hfirst, hcast⟩,
    record, hrecord, hname', method', -, honly, hlacks, herror⟩ := first_desk
  constructor
  · obtain ⟨hwins, -, -⟩ := first_accessor_wins (desk.resolverOf ticket) ticket
    obtain ⟨fields, hfields⟩ := Diagnosed.exists_of_isOk hok
    obtain ⟨hkeys, hmade⟩ := hwins fields hfields
    have hid : "id" ∈ fields.keys :=
      (hkeys "id").2
        ⟨method, List.mem_of_find?_eq_some hfirst, by simpa using List.find?_some hfirst⟩
    obtain ⟨d, hd⟩ := NameMap.contains_iff.1 (NameMap.contains_iff_mem_keys.2 hid)
    obtain ⟨first, hfind, rfl⟩ := hmade "id" d hd
    rw [hfirst] at hfind
    cases hfind
    exact ⟨ticket, hticket, hname, hnames, fields, hfields, _, hd, congrArg some haccessor, hcast⟩
  · obtain ⟨-, hfails, herrors⟩ := first_accessor_wins (desk.resolverOf record) record
    have hmem : method' ∈ (desk.resolverOf record).firstAccessors record :=
      honly ▸ List.mem_singleton.2 rfl
    obtain ⟨e, he⟩ := hfails.2 ⟨method', mem_firstAccessors_iff.1 hmem, hlacks⟩
    obtain ⟨first, hfind, rfl⟩ := herrors e he
    have hfirst : first = method' :=
      List.mem_singleton.1 (honly ▸ List.mem_of_find?_eq_some hfind)
    rw [hfirst, herror] at he
    exact ⟨record, hrecord, hname', he⟩

end Resolver
end EntityGen
