import EntityGen.Proofs.Field.Elements

/-! # The two spellings of nested classes

A return type may separate a nested class from its owner by `$` or by a dot. The type is spelled
with dots before it is looked at, but whether it is nested is also asked of the text as it was
written.

* `descriptor_dotted_iff`: when the descriptors of the two spellings are the same.
* `agree_of_refers`: they are where the type is primitive, or a nested class, an array or a
  collection of one (`ClassSet.Refers`), and nested classes have names.

**The spelling does not matter** exactly if there is no `$`, or the type is primitive or an array,
or the class that the descriptor is about is nested (`spelling_agrees_iff`). A nested class whose
name is not of word characters is not found in a collection, so its `$` makes a difference
(`spellings_of_prices`). -/

namespace EntityGen

/-! ## Text without blanks -/

namespace Text

/-- The code points of all blanks. -/
def blanks : List Nat :=
  List.range' 0x09 5 ++ [0x20, 0x85, 0xA0, 0x1680] ++ List.range' 0x2000 11
    ++ [0x2028, 0x2029, 0x202F, 0x205F, 0x3000]

theorem mem_blanks_of_isBlank {c : Char} (h : isBlank c = true) : c.toNat ∈ blanks := by
  simp only [isBlank, Bool.or_eq_true, Bool.and_eq_true, decide_eq_true_eq, beq_iff_eq] at h
  simp only [blanks, List.mem_append, List.mem_range'_1, List.mem_cons, List.not_mem_nil, or_false]
  omega

/-- Blanks are not word characters. -/
theorem isWord_of_isBlank {c : Char} (h : isBlank c = true) : isWord c = false := by
  have hall : ∀ n ∈ blanks, isWord (Char.ofNat n) = false := by decide +kernel
  rw [← Char.ofNat_toNat c]
  exact hall _ (mem_blanks_of_isBlank h)

theorem trim_eq_self_of_forall {s : String} (h : ∀ c ∈ s.toList, isBlank c = false) :
    trim s = s := by
  have hdrop : ∀ l : List Char, (∀ c ∈ l, isBlank c = false) → l.dropWhile isBlank = l := by
    intro l hl
    cases l with
    | nil => rfl
    | cons c l => exact List.dropWhile_cons_of_neg (by simp [hl c List.mem_cons_self])
  rw [trim, hdrop _ h, hdrop _ fun c hc => h c (List.mem_reverse.1 hc), List.reverse_reverse,
    String.ofList_toList]

/-- No separator is blank, so it does not matter whether a text is trimmed before or after it is
spelled with dots. -/
theorem trim_dotted (s : String) : trim (Name.dotted s) = Name.dotted (trim s) := by
  have hblank : isBlank ∘ (fun c => if c = '$' then '.' else c) = isBlank := by
    funext c
    rw [Function.comp_apply]
    split
    · next h => rw [h]; decide
    · rfl
  apply String.toList_injective
  rw [Name.toList_dotted, trim, trim, String.toList_ofList, String.toList_ofList,
    Name.toList_dotted, List.dropWhile_map, hblank, ← List.map_reverse, List.dropWhile_map, hblank,
    List.map_reverse]

theorem mem_trim_iff {s : String} {c : Char} (hc : isBlank c = false) :
    c ∈ (trim s).toList ↔ c ∈ s.toList := by
  refine ⟨fun h => ?_, fun h => mem_trim h hc⟩
  rw [trim, String.toList_ofList, List.mem_reverse] at h
  exact (List.dropWhile_sublist _).subset
    (List.mem_reverse.1 ((List.dropWhile_sublist _).subset h))

end Text

namespace TypeName

variable {type : String}

theorem isName_iff {text : List Char} :
    IsName text ↔ text ≠ [] ∧ (text.all fun c => Text.isWord c || c == '.') = true := by
  simp only [List.all_eq_true, Bool.or_eq_true, beq_iff_eq]
  exact ⟨fun h => ⟨h.ne_nil, h.chars⟩, fun h => ⟨h.1, h.2⟩⟩

instance (text : List Char) : Decidable (IsName text) := decidable_of_iff _ isName_iff.symm

namespace IsName

theorem char_ne (h : IsName type.toList) {c : Char} (hc : Text.isWord c = false) (hdot : c ≠ '.') :
    c ∉ type.toList := by
  intro hmem
  rcases h.chars c hmem with hword | hdot'
  · rw [hc] at hword
    cases hword
  · exact hdot hdot'

theorem dotted_eq (h : IsName type.toList) : Name.dotted type = type :=
  Name.dotted_eq_self (h.char_ne (by decide) (by decide))

theorem trim_eq (h : IsName type.toList) : Text.trim type = type := by
  refine Text.trim_eq_self_of_forall fun c hc => Bool.eq_false_iff.2 fun hblank => ?_
  refine h.char_ne (Text.isWord_of_isBlank hblank) ?_ hc
  rintro rfl
  cases hblank

theorem not_isTypedCollection (h : IsName type.toList) : ¬ IsTypedCollection type :=
  fun hcollection => h.char_ne (by decide) (by decide) hcollection.1

/-- A name is a collection only if it is the bare name of one. -/
theorem isCollection_iff (h : IsName type.toList) :
    isCollection type = true ↔ type ∈ collections := by
  have htake : type.toList.takeWhile (· ≠ '<') = type.toList := by
    rw [List.takeWhile_eq_self_iff]
    exact fun c hc => decide_eq_true
      (ne_of_mem_of_not_mem hc (h.char_ne (by decide) (by decide)))
  rw [isCollection, htake, String.ofList_toList, h.trim_eq, List.contains_iff_mem]

end IsName

end TypeName

/-! ## Nested classes by name -/

namespace ClassSet

variable {set : ClassSet} {type : String}

/-- A type is the name of a nested class. -/
def NamesNested (set : ClassSet) (type : String) : Prop :=
  ∃ c, set.find? type = some c ∧ c.isNested = true

theorem namesNested_iff :
    set.NamesNested type ↔ (set.find? type).any StubClass.isNested = true := by
  rw [NamesNested, Option.any_eq_true]

instance (set : ClassSet) (type : String) : Decidable (set.NamesNested type) :=
  decidable_of_iff _ namesNested_iff.symm

/-- A type is primitive, or is the name of a nested class itself, of an array or of a
collection. -/
inductive Refers (set : ClassSet) : (type : String) → Prop
  | primitive {type : String} (h : type ∈ TypeName.primitives) : Refers set type
  | direct {type : String} (h : set.NamesNested type) : Refers set type
  | array {element : String} (h : set.NamesNested element) : Refers set (element ++ "[]")
  | collection {family element : String} (hfamily : family ∈ TypeName.collections)
      (h : set.NamesNested element) : Refers set (TypeName.generic family element)

/-- Nested classes have names of word characters, and none has the name of a collection. -/
def HasPlainNames (set : ClassSet) : Prop :=
  ∀ c ∈ set.classes, c.isNested = true →
    TypeName.IsName c.qualifiedName.toList ∧ c.qualifiedName ∉ TypeName.collections

instance (set : ClassSet) : Decidable set.HasPlainNames :=
  inferInstanceAs (Decidable (∀ c ∈ set.classes, c.isNested = true →
    TypeName.IsName c.qualifiedName.toList ∧ c.qualifiedName ∉ TypeName.collections))

/-- A nested class is found under its own name, where all separators are dots. -/
theorem HasPlainNames.of_namesNested (hset : set.HasPlainNames) (h : set.NamesNested type)
    (hdotted : '$' ∉ type.toList) :
    TypeName.IsName type.toList ∧ type ∉ TypeName.collections := by
  obtain ⟨c, hfind, hnested⟩ := h
  have hname : c.qualifiedName = type := by
    rw [find?, Name.dotted_eq_self hdotted, Option.or_self] at hfind
    simpa using List.find?_some hfind
  exact hname ▸ hset c (mem_of_find? hfind) hnested

end ClassSet

namespace Resolver

variable {r : Resolver} {raw type returns : String} {c : Option StubClass}

/-! ## Descriptors -/

theorem isInner_dotted_iff :
    isInner raw c = isInner (Name.dotted raw) c ↔
      '$' ∉ raw.toList ∨ c.any StubClass.isNested = true := by
  have hdotted : (Name.dotted raw).toList.contains '$' = false := by
    simpa using Name.notMem_dotted raw
  rw [isInner, isInner, hdotted, Bool.false_or, ← List.contains_iff_mem]
  cases raw.toList.contains '$' <;> cases c.any StubClass.isNested <;> simp

theorem collection_dotted_iff :
    r.collection raw type = r.collection (Name.dotted raw) type ↔
      '$' ∉ raw.toList ∨ r.classes.NamesNested (TypeName.argument type) := by
  rw [ClassSet.namesNested_iff, ← isInner_dotted_iff]
  simp [collection]

theorem single_dotted_iff :
    r.single raw type = r.single (Name.dotted raw) type ↔
      '$' ∉ raw.toList ∨ r.classes.NamesNested type := by
  rw [ClassSet.namesNested_iff, ← isInner_dotted_iff]
  cases hraw : isInner raw (r.classes.find? type) <;>
    cases hdotted : isInner (Name.dotted raw) (r.classes.find? type) <;>
      simp [single, hraw, hdotted]

theorem isArray_array (r : Resolver) (element : String) :
    (r.array element).kind.isArray = true := by
  rcases kind_array r element with h | h | h <;> rw [h] <;> rfl

/-- The descriptors of the two spellings are the same if there is one spelling, if the type is
primitive or an array, and if the class that they are about is nested. -/
theorem descriptor_dotted_iff (r : Resolver) (returns : String) :
    r.descriptor returns = r.descriptor (Name.dotted returns) ↔
      '$' ∉ returns.toList ∨ (r.descriptor (Name.dotted returns)).kind = .primitive ∨
        (r.descriptor (Name.dotted returns)).kind.isArray = true ∨
        r.classes.NamesNested (r.descriptor (Name.dotted returns)).stubType := by
  rw [← Text.mem_trim_iff (c := '$') (by decide)]
  unfold descriptor
  dsimp only
  rw [Text.trim_dotted, Name.dotted_dotted]
  generalize Text.trim returns = raw
  split
  · simp [FieldDescriptor.plain]
  · split
    · rw [collection_dotted_iff]
      simp [collection, FieldKind.isArray]
    · cases TypeName.arrayElement? (Name.dotted raw) with
      | some element => simp [isArray_array r element]
      | none =>
        have hstub :
            (r.single (Name.dotted raw) (Name.dotted raw)).stubType = Name.dotted raw := rfl
        dsimp only
        rw [single_dotted_iff, hstub]
        rcases kind_single r (Name.dotted raw) (Name.dotted raw) with h | h <;>
          simp [h, FieldKind.isArray]

/-- The class that a descriptor is about is the one that the type is about, where the names of
nested classes are plain. -/
theorem agree_of_refers (hset : r.classes.HasPlainNames)
    (h : r.classes.Refers (Name.dotted returns)) :
    r.descriptor returns = r.descriptor (Name.dotted returns) := by
  rw [descriptor_dotted_iff]
  have hdotted := Name.notMem_dotted returns
  generalize Name.dotted returns = type at h hdotted
  refine .inr ?_
  cases h with
  | primitive h =>
    have hspelling : ∀ type ∈ TypeName.primitives, Name.dotted (Text.trim type) = type := by
      decide +kernel
    refine .inl ((kind_eq_primitive_iff r type).2 ?_)
    rw [hspelling type h]
    exact List.contains_iff_mem.2 h
  | direct h =>
    obtain ⟨hname, hplain⟩ := hset.of_namesNested h hdotted
    have htype : Name.dotted (Text.trim type) = type := by rw [hname.trim_eq, hname.dotted_eq]
    have hcollection : TypeName.isCollection type = false :=
      Bool.eq_false_iff.2 fun hc => hplain (hname.isCollection_iff.1 hc)
    unfold descriptor
    dsimp only
    rw [htype, hcollection]
    split
    · exact .inl rfl
    · cases TypeName.arrayElement? type with
      | some element => exact .inr (.inl (isArray_array r element))
      | none => exact .inr (.inr h)
  | @array element h =>
    have helement : '$' ∉ element.toList := fun hm =>
      hdotted (by rw [String.toList_append]; exact List.mem_append_left _ hm)
    obtain ⟨hname, -⟩ := hset.of_namesNested h helement
    rw [descriptor_of_array r hname.trim_eq, hname.dotted_eq, if_neg hname.not_isTypedCollection]
    exact .inr (.inl (isArray_array r element))
  | @collection family element hfamily h =>
    have helement : '$' ∉ element.toList := fun hm =>
      hdotted (by rw [TypeName.toList_generic]; simp [hm])
    obtain ⟨hname, -⟩ := hset.of_namesNested h helement
    obtain ⟨-, -, hopen, -⟩ := TypeName.spelling_of_mem_collections hfamily
    have hstub : (r.collection (TypeName.generic family element)
        (TypeName.generic family element)).stubType = element := by
      show (TypeName.argument? (TypeName.generic family element)).getD TypeName.object = element
      rw [(TypeName.argument?_generic_iff hopen).2 hname]
      rfl
    rw [descriptor_of_generic r hfamily, hname.dotted_eq, hstub]
    exact .inr (.inr h)

/-! ## Warnings -/

/-- What there is to warn of is a matter of the descriptor and of the type as it is spelled with
dots. -/
theorem warningFor_dotted (owner : StubClass) (method : MethodDef) (d : FieldDescriptor) :
    warningFor owner { method with returns := Name.dotted method.returns } d =
      warningFor owner method d := by
  unfold warningFor
  dsimp only
  rw [Text.trim_dotted, Name.dotted_dotted]

/-- **The spelling of a type does not matter** to the descriptor and to the record of warnings
exactly if there is no `$` in it, or the type is primitive or an array, or the class that its
descriptor is about is nested. With plain names of nested classes this is so for all types that are
primitive or refer to a nested class. -/
theorem spelling_agrees_iff (r : Resolver) (owner : StubClass) (method : MethodDef)
    (before : List Warning) :
    let dotted : MethodDef := { method with returns := Name.dotted method.returns }
    let d := r.descriptor dotted.returns
    ((r.resolveRecorded owner method).run.run before =
        (r.resolveRecorded owner dotted).run.run before ↔
      '$' ∉ method.returns.toList ∨ d.kind = .primitive ∨ d.kind.isArray = true ∨
        r.classes.NamesNested d.stubType) ∧
    (r.classes.HasPlainNames → r.classes.Refers dotted.returns →
      (r.resolveRecorded owner method).run.run before =
        (r.resolveRecorded owner dotted).run.run before) := by
  intro dotted d
  have hruns : (r.resolveRecorded owner method).run.run before =
      (r.resolveRecorded owner dotted).run.run before ↔
        r.descriptor method.returns = r.descriptor (Name.dotted method.returns) := by
    rw [run_resolveRecorded, run_resolveRecorded, warningFor_dotted]
    constructor
    · intro h
      exact Except.ok.inj (Prod.mk.inj h).1
    · intro h
      rw [h]
  exact ⟨hruns.trans (descriptor_dotted_iff r method.returns),
    fun hset h => hruns.2 (agree_of_refers hset h)⟩

/-- Offers have items of a nested class. -/
def offers (item : String) : ClassGraph :=
  .build ⟨ClassDef.layoutAll none 0
    [⟨"a", "Offer", false, none, [],
        [⟨"getItems", [], TypeName.generic "java.util.List" ("a.Offer$" ++ item)⟩],
        [⟨"", item, false, none, [], [⟨"getText", [], "java.lang.String"⟩], []⟩]⟩]⟩ {}

theorem refers_offers {item type : String} (h : (offers item).classes.NamesNested type) :
    (offers item).classes.Refers (TypeName.generic "java.util.List" type) :=
  .collection (by decide) h

/-- The spelling of a list of lines does not matter. -/
theorem spelling_agrees_lines : (offers "Line").classes.HasPlainNames ∧
    ∃ c ∈ (offers "Line").classes.classes, c.qualifiedName = "a.Offer" ∧
      ∃ items ∈ c.accessors, items.returns = "java.util.List<a.Offer$Line>" ∧
        (offers "Line").classes.Refers (Name.dotted items.returns) ∧
        (((offers "Line").resolverOf c).resolveRecorded c items).run.run [] =
          (((offers "Line").resolverOf c).resolveRecorded c
            { items with returns := Name.dotted items.returns }).run.run [] := by
  have hplain : (offers "Line").classes.HasPlainNames := by decide +kernel
  have hitems : ∃ c ∈ (offers "Line").classes.classes, c.qualifiedName = "a.Offer" ∧
      ∃ items ∈ c.accessors, items.returns = "java.util.List<a.Offer$Line>" := by
    decide +kernel
  obtain ⟨c, hc, hname, items, hmem, hreturns⟩ := hitems
  have hrefers : (offers "Line").classes.Refers (Name.dotted items.returns) := by
    have htype : Name.dotted items.returns =
        TypeName.generic "java.util.List" "a.Offer.Line" := by
      rw [hreturns]
      decide
    rw [htype]
    exact refers_offers (by decide +kernel)
  obtain ⟨-, hagrees⟩ := spelling_agrees_iff ((offers "Line").resolverOf c) c items []
  exact ⟨hplain, c, hc, hname, items, hmem, hreturns, hrefers, hagrees hplain hrefers⟩

/-- The currency in the name of a price is no word character. So the elements of a list of prices
count as nested only as long as the list is spelled with `$`. -/
theorem spellings_of_prices : (offers "Price€").Accepted ∧
    ∃ c ∈ (offers "Price€").classes.classes, c.qualifiedName = "a.Offer" ∧
      ∃ items ∈ c.accessors, items.returns = "java.util.List<a.Offer$Price€>" ∧
        (offers "Price€").classes.Refers (Name.dotted items.returns) ∧
        (((offers "Price€").resolverOf c).resolve c items).1.isGenericInner = true ∧
        (((offers "Price€").resolverOf c).resolve c
          { items with returns := Name.dotted items.returns }).1.isGenericInner = false := by
  have hitems : ∃ c ∈ (offers "Price€").classes.classes, c.qualifiedName = "a.Offer" ∧
      ∃ items ∈ c.accessors, items.returns = "java.util.List<a.Offer$Price€>" ∧
        (((offers "Price€").resolverOf c).resolve c items).1.isGenericInner = true ∧
        (((offers "Price€").resolverOf c).resolve c
          { items with returns := Name.dotted items.returns }).1.isGenericInner = false := by
    decide +kernel
  obtain ⟨c, hc, hname, items, hmem, hreturns, hraw, hdotted⟩ := hitems
  refine ⟨ClassGraph.accepted_of_fault?_eq_none (by decide) (by decide), c, hc, hname, items, hmem,
    hreturns, ?_, hraw, hdotted⟩
  have htype : Name.dotted items.returns =
      TypeName.generic "java.util.List" "a.Offer.Price€" := by
    rw [hreturns]
    decide
  rw [htype]
  exact refers_offers (by decide +kernel)

end Resolver
end EntityGen
