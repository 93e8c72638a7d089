import EntityGen.Proofs.Field.Precedence
import EntityGen.Proofs.Graph

/-! # The identity among the fields of a class

What a field map holds under the identity's name, up to the case of letters. The type that counts
for an identity is the one that its accessor returns out of its array or collection: this type is
the configured one or is converted to it (`Converts`), and no other field is converted
(`converts_of_fieldMap`). That the identity is a plain value does not follow.

**The identity is a plain value of its type** exactly if the accessor that it comes from returns a
primitive type (`identity_sound_iff`). The identity of a badge is an array of texts, each of which
could be converted (`array_for_identity`). -/

namespace EntityGen

/-! ## Conversions -/

namespace IdentityCast

variable {a b source target : String} {cast : IdentityCast}

/-- Two names of one identity type: they differ in case at most, or are a primitive type and the
class that holds it. -/
theorem sameType_iff : sameType a b = true ↔
    Text.sameIgnoringCase a b = true ∨ (a, b) ∈ boxed ∨ (b, a) ∈ boxed := by
  rw [sameType, Bool.or_eq_true, Bool.or_eq_true, List.contains_iff_mem, List.contains_iff_mem,
    or_assoc]

theorem between?_spec (h : between? source target = some cast) :
    source = TypeName.string ∧ cast.target = target := by
  have hfind := List.find?_some h
  rw [Bool.and_eq_true, beq_iff_eq, beq_iff_eq] at hfind
  exact ⟨hfind.1.symm, hfind.2⟩

end IdentityCast

namespace Resolver

variable {r : Resolver} {c : StubClass} {fields : FieldMap} {name : String} {d : FieldDescriptor}
  {method : MethodDef}

/-- The type of a field is the identity's, or is text that is converted to it. -/
def Converts (r : Resolver) (d : FieldDescriptor) : Prop :=
  d.cast = none ∧ (Text.sameIgnoringCase d.stubType r.identityType = true ∨
      (d.stubType, r.identityType) ∈ IdentityCast.boxed ∨
      (r.identityType, d.stubType) ∈ IdentityCast.boxed) ∨
    ∃ cast, d.cast = some cast ∧ d.stubType = TypeName.string ∧ cast.target = r.identityType

/-- Whether a field goes by the identity's name. -/
def isIdentity (r : Resolver) (name : String) : Bool :=
  Text.sameIgnoringCase name r.identityName

/-- The identity of a class as it should be: a plain value, of the configured type or converted to
it. -/
structure IsSound (r : Resolver) (d : FieldDescriptor) : Prop where
  kind : d.kind = .primitive
  converts : r.Converts d

/-! ## Fields and their accessors -/

/-- A field that does not go by the identity's name is not converted. -/
theorem castFor_of_not_isIdentity (h : r.isIdentity (r.nameOf c method) = false) :
    r.castFor c method = none := by
  have hneeds : r.needsCast c method = false := by
    unfold needsCast
    rw [← isIdentity, h, Bool.false_and]
  rw [castFor, hneeds]
  rfl

/-- The identity is of its type or converted, unless it lacks its cast. -/
theorem converts_fieldOf (h : r.isIdentity (r.nameOf c method) = true)
    (hcast : r.lacksCast c method = false) : r.Converts (r.fieldOf c method) := by
  have hneeds : r.needsCast c method =
      !IdentityCast.sameType (r.descriptor method.returns).stubType r.identityType := by
    unfold needsCast
    rw [← isIdentity, h, Bool.true_and]
  unfold Converts
  rw [cast_fieldOf, stubType_fieldOf, castFor]
  cases hsame : IdentityCast.sameType (r.descriptor method.returns).stubType r.identityType with
  | true =>
    rw [hneeds, hsame]
    exact .inl ⟨rfl, IdentityCast.sameType_iff.1 hsame⟩
  | false =>
    rw [lacksCast, hneeds, hsame, Bool.not_false, Bool.true_and, Option.isNone_eq_false_iff,
      Option.isSome_iff_exists] at hcast
    obtain ⟨cast, hbetween⟩ := hcast
    obtain ⟨hsource, htarget⟩ := IdentityCast.between?_spec hbetween
    rw [hneeds, hsame, hbetween]
    exact .inr ⟨cast, rfl, hsource, htarget⟩

/-- A field is a plain value exactly if its accessor returns a primitive type. -/
theorem kind_eq_primitive_iff (r : Resolver) (returns : String) :
    (r.descriptor returns).kind = .primitive ↔
      TypeName.isPrimitive (Name.dotted (Text.trim returns)) = true := by
  rcases kind_cases r returns with ⟨hprimitive, hkind⟩ |
    ⟨hprimitive, ⟨-, hkind⟩ | ⟨-, hkind, -⟩⟩ <;> simp [hprimitive, hkind]

/-- In a finished field map the identity is of its type or converted, and no other field is
converted. -/
theorem converts_of_fieldMap (h : (r.fieldMap c).result = .ok fields)
    (hd : fields.get? name = some d) :
    (r.isIdentity name = true → r.Converts d) ∧ (r.isIdentity name = false → d.cast = none) := by
  obtain ⟨method, hfirst, rfl, rfl⟩ := exists_first_of_get? h hd
  refine ⟨fun hidentity => converts_fieldOf hidentity ?_, fun hidentity => ?_⟩
  · have hnone : (r.firstAccessors c).find? (r.lacksCast c) = none := by
      rw [result_fieldMap] at h
      split at h
      · cases h
      · assumption
    simpa using List.find?_eq_none.1 hnone method hfirst
  · rw [cast_fieldOf, castFor_of_not_isIdentity hidentity]

/-- **The identity is a plain value of its type** exactly if no first accessor gives it anything but
a primitive type. In any case it is of its type or converted to it, and no other field is
converted. -/
theorem identity_sound_iff (h : (r.fieldMap c).result = .ok fields) :
    (∀ name d, fields.get? name = some d →
      (r.isIdentity name = true → r.Converts d) ∧ (r.isIdentity name = false → d.cast = none)) ∧
    ((∀ name d, fields.get? name = some d → r.isIdentity name = true → r.IsSound d) ↔
      ∀ method ∈ r.firstAccessors c, r.isIdentity (r.nameOf c method) = true →
        TypeName.isPrimitive (Name.dotted (Text.trim method.returns)) = true) := by
  refine ⟨fun name d => converts_of_fieldMap h, fun hsound method hmethod hidentity => ?_,
    fun hprimitive name d hd hidentity => ⟨?_, (converts_of_fieldMap h hd).1 hidentity⟩⟩
  · have hkind := (hsound _ _ (get?_of_mem_firstAccessors h hmethod) hidentity).kind
    rw [kind_fieldOf] at hkind
    exact (kind_eq_primitive_iff r method.returns).1 hkind
  · obtain ⟨method, hfirst, rfl, rfl⟩ := exists_first_of_get? h hd
    rw [kind_fieldOf]
    exact (kind_eq_primitive_iff r method.returns).2 (hprimitive method hfirst hidentity)

/-- Passes have a text for their identity, badges an array of texts. -/
def badges : ClassGraph :=
  .build ⟨ClassDef.layoutAll none 0
    [⟨"a", "Pass", false, none, [], [⟨"getId", [], "java.lang.String"⟩], []⟩,
      ⟨"a", "Badge", false, none, [], [⟨"getId", [], "java.lang.String[]"⟩], []⟩]⟩ {}

theorem isIdentity_id (c : StubClass) : (badges.resolverOf c).isIdentity "id" = true := by
  rw [isIdentity, show (badges.resolverOf c).identityName = "id" from rfl]
  decide

/-- The one accessor of a pass, and that of a badge. -/
theorem first_badges :
    (∃ c ∈ badges.classes.classes, c.qualifiedName = "a.Pass" ∧
      (badges.fieldMap c).result.isOk = true ∧
      ∃ method ∈ c.accessors, (badges.resolverOf c).firstAccessors c = [method] ∧
        (badges.resolverOf c).nameOf c method = "id" ∧ method.returns = "java.lang.String") ∧
    ∃ c ∈ badges.classes.classes, c.qualifiedName = "a.Badge" ∧
      (badges.fieldMap c).result.isOk = true ∧
      ∃ method ∈ c.accessors, (badges.resolverOf c).firstAccessors c = [method] ∧
        (badges.resolverOf c).nameOf c method = "id" ∧
        ((badges.resolverOf c).descriptor method.returns).kind = .arrayOfPrimitives ∧
        ((badges.resolverOf c).descriptor method.returns).stubType = "java.lang.String" ∧
        (badges.resolverOf c).castFor c method = some .toLong := by
  decide +kernel

theorem get?_id {c : StubClass} {method : MethodDef} (h : (badges.fieldMap c).result = .ok fields)
    (honly : (badges.resolverOf c).firstAccessors c = [method])
    (hid : (badges.resolverOf c).nameOf c method = "id") :
    fields.get? "id" = some ((badges.resolverOf c).fieldOf c method) := by
  rw [← hid]
  exact get?_of_mem_firstAccessors h (honly ▸ List.mem_singleton.2 rfl)

/-- The identity of a pass is a plain value. -/
theorem identity_sound_pass : ∃ c ∈ badges.classes.classes, c.qualifiedName = "a.Pass" ∧
    ∃ fields, (badges.fieldMap c).result = .ok fields ∧
      ∃ d, fields.get? "id" = some d ∧ (badges.resolverOf c).IsSound d := by
  obtain ⟨⟨c, hc, hname, hok, method, -, honly, hid, hreturns⟩, -⟩ := first_badges
  obtain ⟨fields, hfields⟩ := Diagnosed.exists_of_isOk hok
  have hd := get?_id hfields honly hid
  obtain ⟨-, hsound⟩ := identity_sound_iff (r := badges.resolverOf c) hfields
  refine ⟨c, hc, hname, fields, hfields, _, hd,
    hsound.2 (fun other hother _ => ?_) _ _ hd (isIdentity_id c)⟩
  rw [honly, List.mem_singleton] at hother
  rw [hother, hreturns]
  decide +kernel

/-- The identity of a badge is an array that is converted as if it were one text. -/
theorem array_for_identity : badges.Accepted ∧
    ∃ c ∈ badges.classes.classes, c.qualifiedName = "a.Badge" ∧
      ∃ fields, (badges.fieldMap c).result = .ok fields ∧
        ∃ d, fields.get? "id" = some d ∧ (badges.resolverOf c).isIdentity "id" = true ∧
          d.kind = .arrayOfPrimitives ∧ d.stubType = "java.lang.String" ∧ d.cast = some .toLong ∧
          ¬ (badges.resolverOf c).IsSound d := by
  obtain ⟨-, c, hc, hname, hok, method, -, honly, hid, hkind, htype, hcast⟩ := first_badges
  obtain ⟨fields, hfields⟩ := Diagnosed.exists_of_isOk hok
  have hd := get?_id hfields honly hid
  refine ⟨ClassGraph.accepted_of_fault?_eq_none (by decide) (by decide), c, hc, hname, fields,
    hfields, _, hd, isIdentity_id c, (kind_fieldOf ..).trans hkind,
    (stubType_fieldOf ..).trans htype, (cast_fieldOf ..).trans hcast, fun hsound => ?_⟩
  have hplain := hsound.kind
  rw [kind_fieldOf, hkind] at hplain
  cases hplain

end Resolver
end EntityGen
