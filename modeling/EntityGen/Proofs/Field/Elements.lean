import EntityGen.Proofs.Field.Descriptor
import EntityGen.Proofs.TypeName

/-! # Elements of arrays and collections

What the descriptor of `X[]` or `List<X>` says of the element type `X`, for any text `X`.

* `descriptor_of_array`, `descriptor_of_generic`: which rule is applied to such a type.
* `isUnmarked_array_iff`: when the mark of arrays is gone from all types of an array's descriptor.

One mark is taken off an array's type and no more, and an array of collections with arguments is
taken for a collection. So **an array's descriptor is free of marks** exactly if its elements are
neither of these and their generated type has no mark (`array_unmarked_iff`; `marks_of_rows`).

The element of a collection is the first name that stands alone between `<` and `>`, wherever it
stands. So it is **the argument between matching brackets** exactly if this is a name
(`element_eq_argument_iff`; `element_of_batches`). -/

namespace EntityGen

/-- No type of a descriptor has the mark of arrays. -/
structure FieldDescriptor.IsUnmarked (d : FieldDescriptor) : Prop where
  resolved : ∀ type, d.resolvedType = some type → ¬ TypeName.HasMark type
  stub : ¬ TypeName.HasMark d.stubType
  simple : ¬ TypeName.HasMark d.stubSimpleName

namespace Resolver

variable {r : Resolver} {owner : StubClass} {method : MethodDef} {element family argument : String}

theorem resolve_fst (r : Resolver) (owner : StubClass) (method : MethodDef) :
    (r.resolve owner method).1 = r.descriptor method.returns := by
  rw [resolve]

/-! ## Arrays -/

/-- An array of collections with arguments is taken for a collection, any other type with the mark
for an array. -/
theorem descriptor_of_array (r : Resolver) (htrim : Text.trim element = element) :
    r.descriptor (element ++ "[]") =
      if TypeName.IsTypedCollection (Name.dotted element) then
        r.collection (element ++ "[]") (Name.dotted element ++ "[]")
      else r.array (Name.dotted element) := by
  have hdotted : Name.dotted (element ++ "[]") = Name.dotted element ++ "[]" :=
    Name.dotted_append element "[]"
  rw [descriptor, TypeName.trim_append_arrayMark htrim, hdotted, TypeName.not_isPrimitive_array,
    if_neg Bool.false_ne_true, TypeName.arrayElement?_eq_some_iff.2 rfl]
  simp only [TypeName.isCollection_append_arrayMark]

theorem kind_array_eq_arrayOfPrimitives_iff {type : String} :
    (r.array type).kind = .arrayOfPrimitives ↔ TypeName.isPrimitive type = true := by
  unfold array
  by_cases hprimitive : TypeName.isPrimitive type = true
  · rw [if_pos hprimitive]
    exact iff_of_true rfl hprimitive
  · rw [if_neg hprimitive]
    split <;> exact iff_of_false (by simp) hprimitive

/-- The types of an array's descriptor are free of marks if the element's is, and the generated type
as well. -/
theorem isUnmarked_array_iff {type : String} : (r.array type).IsUnmarked ↔
    ¬ TypeName.HasMark type ∧ (TypeName.isPrimitive type = true ∨
      if Name.isWithin type r.outermost.qualifiedName = true then
        ¬ TypeName.HasMark (Name.simple type ++ r.entitySuffix)
      else ∀ target, r.targets.get? type = some target → ¬ TypeName.HasMark target) := by
  unfold array
  by_cases hprimitive : TypeName.isPrimitive type = true
  · have hmark := TypeName.not_hasMark_of_isPrimitive hprimitive
    rw [if_pos hprimitive]
    refine iff_of_true ⟨?_, hmark, hmark⟩ ⟨hmark, .inl hprimitive⟩
    rintro _ ⟨⟩
    exact hmark
  · rw [if_neg hprimitive, or_iff_right hprimitive]
    split
    · constructor
      · intro h
        exact ⟨h.stub, h.resolved _ rfl⟩
      · rintro ⟨hmark, hgenerated⟩
        refine ⟨?_, hmark, TypeName.not_hasMark_simple hmark⟩
        rintro _ ⟨⟩
        exact hgenerated
    · constructor
      · intro h
        exact ⟨h.stub, h.resolved⟩
      · rintro ⟨hmark, hgenerated⟩
        exact ⟨hgenerated, hmark, TypeName.not_hasMark_simple hmark⟩

/-- **The descriptor of an array.** An array is one for the generator unless it is an array of
collections with arguments, and it is an array of primitives exactly if its elements are primitive.
No mark of arrays is left in the descriptor exactly if there is none in the element type either, and
none in the element's generated type. -/
theorem array_unmarked_iff (r : Resolver) (owner : StubClass) (method : MethodDef)
    (htrim : Text.trim element = element) (hreturns : method.returns = element ++ "[]") :
    let d := (r.resolve owner method).1
    (d.kind.isArray = true ↔ ¬ TypeName.IsTypedCollection (Name.dotted element)) ∧
    (d.kind = .arrayOfPrimitives ↔ Name.dotted element ∈ TypeName.primitives) ∧
    (d.kind.isArray = true ∧ d.IsUnmarked ↔
      ¬ TypeName.IsTypedCollection (Name.dotted element) ∧
        ¬ TypeName.HasMark element ∧ (Name.dotted element ∈ TypeName.primitives ∨
          if Name.isWithin (Name.dotted element) r.outermost.qualifiedName = true then
            ¬ TypeName.HasMark (Name.simple (Name.dotted element) ++ r.entitySuffix)
          else ∀ target, r.targets.get? (Name.dotted element) = some target →
            ¬ TypeName.HasMark target)) := by
  intro d
  have hd : d = r.descriptor (element ++ "[]") :=
    (resolve_fst r owner method).trans (congrArg r.descriptor hreturns)
  have hprimitive : TypeName.isPrimitive (Name.dotted element) = true ↔
      Name.dotted element ∈ TypeName.primitives := List.contains_iff_mem
  rw [hd, descriptor_of_array r htrim]
  split
  · next hcollection =>
    -- no primitive type is a collection, so all three parts fail on both sides
    have hnot : Name.dotted element ∉ TypeName.primitives := fun hmem => by
      have hnone := not_isCollection_of_isPrimitive (hprimitive.2 hmem)
      rw [hcollection.2] at hnone
      cases hnone
    refine ⟨?_, ?_, ?_⟩ <;> simp [collection, FieldKind.isArray, hcollection, hnot]
  · next hcollection =>
    have harray : (r.array (Name.dotted element)).kind.isArray = true := by
      rcases kind_array r (Name.dotted element) with h | h | h <;> rw [h] <;> rfl
    refine ⟨iff_of_true harray hcollection, kind_array_eq_arrayOfPrimitives_iff.trans hprimitive,
      ?_⟩
    rw [and_iff_right harray, and_iff_right hcollection, isUnmarked_array_iff,
      TypeName.hasMark_dotted_iff, hprimitive]

/-- Orders have lines in an array, in rows of an array, in an array of lists, in a list and in a
list of lists. -/
def orders : ClassGraph :=
  .build ⟨ClassDef.layoutAll none 0
    [⟨"a", "Order", false, none, [],
        [⟨"getLines", [], "a.Order.Line[]"⟩,
          ⟨"getRows", [], "a.Order.Line[][]"⟩,
          ⟨"getGroups", [], "java.util.List<a.Order.Line>[]"⟩,
          ⟨"getItems", [], "java.util.List<a.Order.Line>"⟩,
          ⟨"getBatches", [], "java.util.List<java.util.List<a.Order.Line>>"⟩],
        [⟨"", "Line", false, none, [], [⟨"getText", [], "java.lang.String"⟩], []⟩]⟩]⟩ {}

theorem accepted_orders : orders.Accepted :=
  ClassGraph.accepted_of_fault?_eq_none (by decide) (by decide)

/-- The arrays of an order. -/
theorem arrays_orders : ∃ c ∈ orders.classes.classes, c.qualifiedName = "a.Order" ∧
    (∃ lines ∈ c.accessors, lines.returns = "a.Order.Line" ++ "[]" ∧
      Name.isWithin (Name.dotted "a.Order.Line") (orders.resolverOf c).outermost.qualifiedName =
        true) ∧
    (∃ rows ∈ c.accessors, rows.returns = "a.Order.Line[]" ++ "[]" ∧
      ((orders.resolverOf c).resolve c rows).1.kind = .arrayOfInnerClasses ∧
      ((orders.resolverOf c).resolve c rows).1.stubType = "a.Order.Line[]" ∧
      ((orders.resolverOf c).resolve c rows).1.resolvedType = some "Line[]JPA") ∧
    ∃ groups ∈ c.accessors, groups.returns = "java.util.List<a.Order.Line>" ++ "[]" ∧
      ((orders.resolverOf c).resolve c groups).1.kind = .collection := by
  decide +kernel

/-- The lines of an order are an array without marks. -/
theorem array_unmarked_lines : Text.trim "a.Order.Line" = "a.Order.Line" ∧
    ∃ c ∈ orders.classes.classes, c.qualifiedName = "a.Order" ∧
      ∃ lines ∈ c.accessors, lines.returns = "a.Order.Line" ++ "[]" ∧
        ((orders.resolverOf c).resolve c lines).1.kind.isArray = true ∧
        ((orders.resolverOf c).resolve c lines).1.IsUnmarked := by
  obtain ⟨c, hc, hname, ⟨lines, hlines, hreturns, hwithin⟩, -, -⟩ := arrays_orders
  have htrim : Text.trim "a.Order.Line" = "a.Order.Line" := by decide
  obtain ⟨-, -, hunmarked⟩ :=
    array_unmarked_iff (orders.resolverOf c) c lines htrim hreturns
  refine ⟨htrim, c, hc, hname, lines, hlines, hreturns,
    hunmarked.2 ⟨by decide +kernel, by decide +kernel, .inr ?_⟩⟩
  rw [if_pos hwithin]
  have hsuffix : (orders.resolverOf c).entitySuffix = "JPA" := rfl
  rw [hsuffix]
  decide +kernel

/-- Rows of lines keep a mark in all their types, and an array of lists is no array. -/
theorem marks_of_rows : orders.Accepted ∧
    Text.trim "a.Order.Line[]" = "a.Order.Line[]" ∧
    Text.trim "java.util.List<a.Order.Line>" = "java.util.List<a.Order.Line>" ∧
    ∃ c ∈ orders.classes.classes, c.qualifiedName = "a.Order" ∧
      (∃ rows ∈ c.accessors, rows.returns = "a.Order.Line[]" ++ "[]" ∧
        TypeName.HasMark ((orders.resolverOf c).resolve c rows).1.stubType ∧
        ∃ type, ((orders.resolverOf c).resolve c rows).1.resolvedType = some type ∧
          TypeName.HasMark type) ∧
      ∃ groups ∈ c.accessors, groups.returns = "java.util.List<a.Order.Line>" ++ "[]" ∧
        ((orders.resolverOf c).resolve c groups).1.kind.isArray = false := by
  obtain ⟨c, hc, hname, -, ⟨rows, hrows, hreturns, -, hstub, hresolved⟩, groups, hgroups,
    hgroupsReturns, hkind⟩ := arrays_orders
  refine ⟨accepted_orders, by decide, by decide, c, hc, hname,
    ⟨rows, hrows, hreturns, ?_, _, hresolved, by decide +kernel⟩, groups, hgroups,
    hgroupsReturns, ?_⟩
  · rw [hstub]
    decide +kernel
  · rw [hkind]
    rfl

/-! ## Collections -/

theorem descriptor_of_generic (r : Resolver) (h : family ∈ TypeName.collections) :
    r.descriptor (TypeName.generic family argument) =
      r.collection (TypeName.generic family argument)
        (TypeName.generic family (Name.dotted argument)) := by
  obtain ⟨-, hdotted, -, -⟩ := TypeName.spelling_of_mem_collections h
  have htype : Name.dotted (Text.trim (TypeName.generic family argument)) =
      TypeName.generic family (Name.dotted argument) := by
    rw [TypeName.trim_generic h, TypeName.dotted_generic, hdotted]
  have hcollection : TypeName.isCollection
      (Name.dotted (Text.trim (TypeName.generic family argument))) = true := by
    rw [htype]
    exact TypeName.isCollection_generic h
  rw [descriptor_of_isCollection hcollection, htype, TypeName.trim_generic h]

/-- **The element of a collection.** A list or set with an argument is a collection. The element is
the argument, as it stands between matching brackets, and nothing is warned of exactly if the
argument is a name. The collection is said to be untyped exactly if no name stands alone between
brackets anywhere in the type. -/
theorem element_eq_argument_iff (r : Resolver) (owner : StubClass) (method : MethodDef)
    (before : List Warning) (hfamily : family ∈ TypeName.collections)
    (hbalanced : TypeName.isBalanced 0 argument.toList = true)
    (hreturns : method.returns = TypeName.generic family argument) :
    TypeName.enclosed? method.returns.toList = some argument.toList ∧
    ∃ d warnings, (r.resolveRecorded owner method).run.run before = (.ok d, before ++ warnings) ∧
      d.kind = .collection ∧
      (d.stubType = Name.dotted argument ∧
          .untypedCollection owner.qualifiedName method.name ∉ warnings ↔
        TypeName.IsName (Name.dotted argument).toList) ∧
      (.untypedCollection owner.qualifiedName method.name ∈ warnings ↔
        ∀ name, TypeName.IsName name →
          ¬ '<' :: (name ++ ['>']) <:+: (Name.dotted method.returns).toList) := by
  obtain ⟨-, hdotted, hopen, -⟩ := TypeName.spelling_of_mem_collections hfamily
  have htype : Name.dotted method.returns = TypeName.generic family (Name.dotted argument) := by
    rw [hreturns, TypeName.dotted_generic, hdotted]
  have htrim : Text.trim method.returns = method.returns := by
    rw [hreturns, TypeName.trim_generic hfamily]
  have hd : r.descriptor method.returns =
      r.collection method.returns (Name.dotted method.returns) := by
    rw [htype, hreturns, descriptor_of_generic r hfamily]
  have hkind : (r.descriptor method.returns).kind = .collection := by
    rw [hd]
    rfl
  have hstub : (r.descriptor method.returns).stubType =
      (TypeName.argument? (Name.dotted method.returns)).getD TypeName.object := by
    rw [hd]
    rfl
  have hwarned : .untypedCollection owner.qualifiedName method.name ∈
      (warningFor owner method (r.descriptor method.returns)).toList ↔
        TypeName.argument? (Name.dotted method.returns) = none := by
    rw [toList_warningFor, hkind, htrim]
    cases TypeName.argument? (Name.dotted method.returns) <;> simp
  refine ⟨?_, _, _, run_resolveRecorded r owner method before, hkind, ?_, ?_⟩
  · -- the search knows nothing of matching brackets; they count for this part alone
    rw [hreturns]
    exact TypeName.enclosed?_generic hopen hbalanced
  · rw [hwarned, hstub, ← TypeName.argument?_generic_iff hopen, ← htype]
    cases TypeName.argument? (Name.dotted method.returns) <;> simp
  · rw [hwarned, TypeName.argument?_eq_none_iff]

/-- The collections of an order. -/
theorem collections_orders : ∃ c ∈ orders.classes.classes, c.qualifiedName = "a.Order" ∧
    (∃ items ∈ c.accessors, items.returns = TypeName.generic "java.util.List" "a.Order.Line") ∧
    ∃ batches ∈ c.accessors,
      batches.returns = TypeName.generic "java.util.List" "java.util.List<a.Order.Line>" ∧
      ((orders.resolverOf c).descriptor batches.returns).stubType = "a.Order.Line" := by
  decide +kernel

/-- The items of an order are its lines. -/
theorem element_eq_argument_items : "java.util.List" ∈ TypeName.collections ∧
    TypeName.isBalanced 0 "a.Order.Line".toList = true ∧
    ∃ c ∈ orders.classes.classes, c.qualifiedName = "a.Order" ∧
      ∃ items ∈ c.accessors, items.returns = TypeName.generic "java.util.List" "a.Order.Line" ∧
        ∃ d warnings, ((orders.resolverOf c).resolveRecorded c items).run.run [] =
            (.ok d, warnings) ∧
          d.kind = .collection ∧ d.stubType = Name.dotted "a.Order.Line" ∧
          .untypedCollection c.qualifiedName items.name ∉ warnings := by
  obtain ⟨c, hc, hname, ⟨items, hitems, hreturns⟩, -⟩ := collections_orders
  have hfamily : "java.util.List" ∈ TypeName.collections := by decide
  have hbalanced : TypeName.isBalanced 0 "a.Order.Line".toList = true := by decide
  obtain ⟨-, d, warnings, hrun, hkind, helement, -⟩ :=
    element_eq_argument_iff (orders.resolverOf c) c items [] hfamily hbalanced hreturns
  have hchars : (Name.dotted "a.Order.Line").toList.all (fun c => Text.isWord c || c == '.') =
      true := by decide +kernel
  obtain ⟨hstub, hwarned⟩ := helement.2 ⟨by decide, by simpa using hchars⟩
  exact ⟨hfamily, hbalanced, c, hc, hname, items, hitems, hreturns, d, warnings, hrun, hkind, hstub,
    hwarned⟩

/-- Batches are lists of lines, but their element is a line. -/
theorem element_of_batches : orders.Accepted ∧
    TypeName.isBalanced 0 "java.util.List<a.Order.Line>".toList = true ∧
    Text.trim "java.util.List<a.Order.Line>" = "java.util.List<a.Order.Line>" ∧
    ∃ c ∈ orders.classes.classes, c.qualifiedName = "a.Order" ∧
      ∃ batches ∈ c.accessors,
        batches.returns = TypeName.generic "java.util.List" "java.util.List<a.Order.Line>" ∧
        TypeName.enclosed? batches.returns.toList = some "java.util.List<a.Order.Line>".toList ∧
        ((orders.resolverOf c).resolve c batches).1.stubType = "a.Order.Line" ∧
        ((orders.resolverOf c).resolve c batches).1.stubType ≠
          Name.dotted "java.util.List<a.Order.Line>" := by
  obtain ⟨c, hc, hname, -, batches, hbatches, hreturns, hstub⟩ := collections_orders
  rw [← resolve_fst (orders.resolverOf c) c batches] at hstub
  refine ⟨accepted_orders, by decide, by decide, c, hc, hname, batches, hbatches, hreturns, ?_,
    hstub, ?_⟩
  · rw [hreturns]
    exact TypeName.enclosed?_generic (by decide) (by decide)
  · rw [hstub]
    decide

end Resolver
end EntityGen
