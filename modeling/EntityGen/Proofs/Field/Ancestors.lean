import EntityGen.Proofs.Field.Resolver
import EntityGen.Proofs.Lookup
import Mathlib.Data.Finset.Card

/-! # The search for a field among ancestors

A type has a field if its class or an ancestor of it declares the field. The ancestors are the
classes of the set that the names of superclasses lead to, link by link (`ClassSet.Climbs`); arrays,
primitives, the root of all classes and names that the set lacks end the way. The search follows no
more links than there are classes.

* `climbs_of_repeat`: where the way comes to a class again, a part of it can be left out.
* `exists_short_climb`: so fewer links than there are classes lead to each ancestor.
* `declaresWithin_iff`: what a search of a given length finds.
* `declaresWithin_length_iff`: as many steps as there are classes are enough.

**The search is exact** (`hasField_iff`): its length hides no ancestor, and cycles do no harm. -/

namespace EntityGen

/-- A class has a field or an accessor of a name, up to the case of letters. -/
def StubClass.HasMember (c : StubClass) (name : String) : Prop :=
  (∃ f ∈ c.fields, Text.sameIgnoringCase f.name name = true) ∨
    ∃ m ∈ c.methods, m.isAccessor = true ∧
      Text.sameIgnoringCase (Name.fieldOfAccessor m.name) name = true

theorem StubClass.declares_iff {c : StubClass} {name : String} :
    c.declares name = true ↔ c.HasMember name := by
  simp only [declares, HasMember, accessors, Bool.or_eq_true, List.any_eq_true, List.mem_filter,
    and_assoc]

namespace ClassSet

variable {set : ClassSet} {type parent field : String} {a b c : StubClass} {i j k n steps : Nat}

/-! ## The way up -/

/-- The class at which the search looks for a type. -/
structure Visits (set : ClassSet) (type : String) (c : StubClass) : Prop where
  not_array : ∀ element, type ≠ element ++ "[]"
  not_primitive : type ∉ TypeName.primitives
  not_object : type ≠ TypeName.object
  found : set.LeadsTo type c

/-- From the class of a type, `n` superclass links lead to a class, by way of classes at which the
search looks. -/
inductive Climbs (set : ClassSet) (type : String) : Nat → StubClass → Prop
  | start {c : StubClass} (h : set.Visits type c) : Climbs set type 0 c
  | up {n : Nat} {c a : StubClass} {parent : String} (h : Climbs set type n c)
      (hparent : c.superclass = some parent) (ha : set.Visits parent a) : Climbs set type (n + 1) a

theorem isFieldless_eq_false_iff : isFieldless type = false ↔
    (∀ element, type ≠ element ++ "[]") ∧ type ∉ TypeName.primitives ∧ type ≠ TypeName.object := by
  have harray : (TypeName.arrayElement? type).isSome = false ↔
      ∀ element, type ≠ element ++ "[]" := by
    rw [Option.isSome_eq_false_iff, Option.isNone_iff_eq_none, Option.eq_none_iff_forall_ne_some]
    exact forall_congr' fun element => not_congr TypeName.arrayElement?_eq_some_iff
  have hprimitive : TypeName.isPrimitive type = false ↔ type ∉ TypeName.primitives :=
    Bool.eq_false_iff.trans (not_congr List.contains_iff_mem)
  have hobject : (type == TypeName.object) = false ↔ type ≠ TypeName.object := beq_eq_false_iff_ne
  rw [isFieldless, Bool.or_eq_false_iff, Bool.or_eq_false_iff, harray, hprimitive, hobject,
    and_assoc]

theorem visits_iff : set.Visits type c ↔ isFieldless type = false ∧ set.LeadsTo type c := by
  rw [isFieldless_eq_false_iff]
  exact ⟨fun h => ⟨⟨h.not_array, h.not_primitive, h.not_object⟩, h.found⟩,
    fun ⟨⟨h₁, h₂, h₃⟩, h₄⟩ => ⟨h₁, h₂, h₃, h₄⟩⟩

theorem Visits.find?_eq (h : set.Visits type c) : set.find? type = some c :=
  find?_eq_some_iff_leadsTo.2 h.found

theorem Visits.eq (h : set.Visits type a) (h' : set.Visits type b) : a = b :=
  Option.some.inj (h.find?_eq.symm.trans h'.find?_eq)

namespace Climbs

theorem mem (h : set.Climbs type n c) : c ∈ set.classes := by
  cases h with
  | start h | up _ _ h => exact mem_of_find? h.find?_eq

/-- A number of links leads to one class at most. -/
theorem eq (ha : set.Climbs type n a) (hb : set.Climbs type n b) : a = b := by
  induction ha generalizing b with
  | start ha =>
    cases hb with
    | start hb => exact ha.eq hb
  | up _ hparent ha ih =>
    cases hb with
    | up hc hparent' hb =>
      obtain rfl := ih hc
      obtain rfl := Option.some.inj (hparent.symm.trans hparent')
      exact ha.eq hb

/-- Each part of the way leads to a class. -/
theorem exists_of_le (h : set.Climbs type n c) (hi : i ≤ n) : ∃ a, set.Climbs type i a := by
  induction h with
  | start h =>
    obtain rfl := Nat.le_zero.1 hi
    exact ⟨_, .start h⟩
  | up h hparent ha ih =>
    rcases Nat.le_succ_iff.1 hi with hi | rfl
    · exact ih hi
    · exact ⟨_, .up h hparent ha⟩

/-- The links may also be taken from the front. -/
theorem succ_iff : set.Climbs type (n + 1) a ↔
    ∃ c parent, set.Visits type c ∧ c.superclass = some parent ∧ set.Climbs parent n a := by
  constructor
  · intro h
    induction n generalizing a with
    | zero =>
      obtain _ | ⟨h, hparent, ha⟩ := h
      obtain ⟨h⟩ := h
      exact ⟨_, _, h, hparent, .start ha⟩
    | succ n ih =>
      obtain _ | ⟨h, hparent, ha⟩ := h
      obtain ⟨c, parent, hc, hsuper, h⟩ := ih h
      exact ⟨c, parent, hc, hsuper, .up h hparent ha⟩
  · rintro ⟨c, parent, hc, hsuper, h⟩
    induction h with
    | start ha => exact .up (.start hc) hsuper ha
    | up _ hparent ha ih => exact .up ih hparent ha

end Climbs

/-! ## Short ways -/

/-- What lies above a class is the same each time that the way comes to the class. -/
theorem climbs_of_repeat (hi : set.Climbs type i b) (hj : set.Climbs type j b)
    (h : set.Climbs type (j + k) c) : set.Climbs type (i + k) c := by
  induction k generalizing c with
  | zero => exact h.eq hj ▸ hi
  | succ k ih =>
    obtain _ | ⟨h, hparent, hc⟩ := h
    exact .up (ih h) hparent hc

/-- A way of as many links as there are classes comes to some class twice. -/
theorem exists_repeat (h : set.Climbs type n c) (hn : set.classes.length ≤ n) :
    ∃ i j b, i < j ∧ j ≤ n ∧ set.Climbs type i b ∧ set.Climbs type j b := by
  -- a class for each number of links, so that there is a function from numbers to classes
  have hvisited : ∀ i, ∃ a, i ≤ n → set.Climbs type i a := fun i => by
    by_cases hi : i ≤ n
    · obtain ⟨a, ha⟩ := h.exists_of_le hi
      exact ⟨a, fun _ => ha⟩
    · exact ⟨c, fun hle => absurd hle hi⟩
  choose classAt hclassAt using hvisited
  have hle : ∀ i ∈ Finset.range (n + 1), i ≤ n := fun i hi =>
    Nat.le_of_lt_succ (Finset.mem_range.1 hi)
  have hcard : set.classes.toFinset.card < (Finset.range (n + 1)).card := by
    rw [Finset.card_range]
    exact Nat.lt_succ_of_le ((List.toFinset_card_le _).trans hn)
  obtain ⟨i, hi, j, hj, hne, heq⟩ := Finset.exists_ne_map_eq_of_card_lt_of_maps_to hcard
    (fun i hi => List.mem_toFinset.2 (hclassAt i (hle i hi)).mem)
  rcases Nat.lt_or_gt_of_ne hne with hlt | hlt
  · exact ⟨i, j, classAt j, hlt, hle j hj, heq ▸ hclassAt i (hle i hi), hclassAt j (hle j hj)⟩
  · exact ⟨j, i, classAt i, hlt, hle i hi, heq ▸ hclassAt j (hle j hj), hclassAt i (hle i hi)⟩

/-- Fewer links than there are classes lead to each class on the way up. -/
theorem exists_short_climb (h : set.Climbs type n c) :
    ∃ m < set.classes.length, set.Climbs type m c := by
  induction n using Nat.strong_induction_on with
  | _ n ih =>
    by_cases hn : n < set.classes.length
    · exact ⟨n, hn, h⟩
    · -- the links between the two visits to one class are left out
      obtain ⟨i, j, b, hij, hj, hi, hb⟩ := exists_repeat h (Nat.le_of_not_lt hn)
      obtain ⟨k, rfl⟩ := Nat.exists_eq_add_of_le hj
      exact ih (i + k) (by omega) (climbs_of_repeat hi hb h)

/-! ## The search -/

theorem declaresWithin_zero : set.declaresWithin field 0 type = true ↔
    ∃ c, set.Visits type c ∧ c.declares field = true := by
  simp only [visits_iff, ← find?_eq_some_iff_leadsTo]
  rw [declaresWithin]
  cases isFieldless type <;> cases set.find? type <;> simp

theorem declaresWithin_succ : set.declaresWithin field (steps + 1) type = true ↔
    ∃ c, set.Visits type c ∧ (c.declares field = true ∨
      ∃ parent, c.superclass = some parent ∧ set.declaresWithin field steps parent = true) := by
  simp only [visits_iff, ← find?_eq_some_iff_leadsTo]
  rw [declaresWithin]
  cases isFieldless type with
  | true => simp
  | false =>
    cases set.find? type with
    | none => simp
    | some c => cases c.declares field <;> cases hsuper : c.superclass <;> simp [hsuper]

/-- A search finds what is declared within its length. -/
theorem declaresWithin_iff : set.declaresWithin field steps type = true ↔
    ∃ n ≤ steps, ∃ c, set.Climbs type n c ∧ c.declares field = true := by
  induction steps generalizing type with
  | zero =>
    rw [declaresWithin_zero]
    constructor
    · rintro ⟨c, hc, hdeclares⟩
      exact ⟨0, Nat.le_refl 0, c, .start hc, hdeclares⟩
    · rintro ⟨n, hn, c, hc, hdeclares⟩
      obtain rfl := Nat.le_zero.1 hn
      obtain ⟨hc⟩ := hc
      exact ⟨c, hc, hdeclares⟩
  | succ steps ih =>
    rw [declaresWithin_succ]
    constructor
    · rintro ⟨c, hc, hdeclares | ⟨parent, hparent, hfound⟩⟩
      · exact ⟨0, Nat.zero_le _, c, .start hc, hdeclares⟩
      · obtain ⟨n, hn, a, ha, hdeclares⟩ := ih.1 hfound
        exact ⟨n + 1, Nat.succ_le_succ hn, a, Climbs.succ_iff.2 ⟨c, parent, hc, hparent, ha⟩,
          hdeclares⟩
    · rintro ⟨n, hn, a, ha, hdeclares⟩
      cases n with
      | zero =>
        obtain ⟨ha⟩ := ha
        exact ⟨a, ha, .inl hdeclares⟩
      | succ n =>
        obtain ⟨c, parent, hc, hparent, ha⟩ := Climbs.succ_iff.1 ha
        exact ⟨c, hc, .inr ⟨parent, hparent, ih.2 ⟨n, Nat.le_of_succ_le_succ hn, a, ha, hdeclares⟩⟩⟩

/-- As many steps as there are classes find what any number of steps finds. -/
theorem declaresWithin_length_iff :
    set.declaresWithin field set.classes.length type = true ↔
      ∃ n c, set.Climbs type n c ∧ c.HasMember field := by
  rw [declaresWithin_iff]
  simp only [StubClass.declares_iff]
  constructor
  · rintro ⟨n, -, c, hc, hmember⟩
    exact ⟨n, c, hc, hmember⟩
  · rintro ⟨n, c, hc, hmember⟩
    obtain ⟨m, hm, hshort⟩ := exists_short_climb hc
    exact ⟨m, Nat.le_of_lt hm, c, hshort, hmember⟩

/-- **The search is exact.** It finds a field exactly if some number of superclass links leads from
the type, spelled with dots, to a class that has the field or an accessor for it. -/
theorem hasField_iff (set : ClassSet) (type field : String) : set.hasField type field = true ↔
    ∃ n c, set.Climbs (Name.dotted type) n c ∧ c.HasMember field := by
  rw [hasField, declaresWithin_length_iff]

end ClassSet
end EntityGen
