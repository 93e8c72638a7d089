import EntityGen.Proofs.Plan.References

/-! # Own types

A class lies below its owners by name as it does by nesting (`ClassSet.isWithin_of_liesIn`), since
lying below a name is reflexive and transitive (`Name.isWithin_refl`, `Name.isWithin_trans`). So a
type of a top-level class's own tree is never a stranger there, whatever field it stands in, and no
correction moves it (`ClassGraph.own_types_stay`). -/

namespace EntityGen

/-! ## Names below names -/

namespace Name

variable {name owner : String}

/-- A name lies below another one that it goes on from with a separator, if it goes on at all. -/
theorem isWithin_iff : isWithin name owner = true ↔
    ∃ rest, name.toList = owner.toList ++ rest ∧ ∀ c ∈ rest.head?, isSeparator c = true := by
  rw [isWithin]
  cases hstrip : Text.strip? owner.toList name.toList with
  | none =>
    constructor
    · intro h
      cases h
    · rintro ⟨rest, hrest, -⟩
      rw [Text.strip?_eq_some_iff.2 hrest] at hstrip
      cases hstrip
  | some rest =>
    have hrest := Text.strip?_eq_some_iff.1 hstrip
    have honly : ∀ other, name.toList = owner.toList ++ other → other = rest := fun other h =>
      List.append_cancel_left (h.symm.trans hrest)
    cases rest with
    | nil => exact ⟨fun _ => ⟨[], hrest, by simp⟩, fun _ => rfl⟩
    | cons c rest =>
      constructor
      · intro hc
        exact ⟨c :: rest, hrest, by simpa using hc⟩
      · rintro ⟨other, hother, hsep⟩
        obtain rfl := honly other hother
        exact hsep c rfl

theorem isWithin_refl (name : String) : isWithin name name = true :=
  isWithin_iff.2 ⟨[], (List.append_nil _).symm, by simp⟩

theorem isWithin_trans {outer : String} (h : isWithin name owner = true)
    (h' : isWithin owner outer = true) : isWithin name outer = true := by
  obtain ⟨inner, hname, hinner⟩ := isWithin_iff.1 h
  obtain ⟨rest, howner, hrest⟩ := isWithin_iff.1 h'
  refine isWithin_iff.2 ⟨rest ++ inner, by rw [hname, howner, List.append_assoc], ?_⟩
  -- the first separator is that of the outer part, if there is one
  cases rest with
  | nil => exact hinner
  | cons c rest => exact hrest

end Name

/-! ## Classes below classes -/

namespace ClassSet

variable {set : ClassSet} {c a : StubClass}

/-- What a class lies in its name lies below. -/
theorem isWithin_of_liesIn (h : set.WellFormed) (hca : set.LiesIn c a) (hc : c ∈ set.classes) :
    Name.isWithin c.qualifiedName a.qualifiedName = true := by
  induction hca with
  | refl => exact Name.isWithin_refl _
  | @step c o a ho _ ih =>
    obtain ⟨hmem, hco⟩ := (enclosingOf_eq_some_iff h hc).1 ho
    have hdirect : Name.isWithin c.qualifiedName o.qualifiedName = true := by
      rw [hco.qualifiedName]
      exact ClassGraph.isWithin_append _ _
    exact Name.isWithin_trans hdirect (ih hmem)

theorem isWithin_outermost (h : set.WellFormed) (hc : c ∈ set.classes) :
    Name.isWithin c.qualifiedName (set.outermost c).qualifiedName = true :=
  isWithin_of_liesIn h (outermost_spec h hc).2.2 hc

/-- A type outside a top-level class is none of the classes in it. -/
theorem ne_qualifiedName_of_outside (h : set.WellFormed) (hc : c ∈ set.classes) {stubType : String}
    (hout : Name.isWithin stubType (set.outermost c).qualifiedName = false) :
    stubType ≠ c.qualifiedName := by
  rintro rfl
  rw [isWithin_outermost h hc] at hout
  cases hout

end ClassSet

namespace Stranger

theorem outside_of_mem_corrections {classes : ClassSet} {targets : TargetTable}
    {current : StubClass} {fields : FieldMap} {k : OwnershipCorrection}
    (hk : k ∈ corrections classes targets current fields) :
    Name.isWithin k.stubType current.qualifiedName = false := by
  obtain ⟨field, d, -, hs, rfl⟩ := mem_corrections_iff.1 hk
  exact not_isWithin_of_isStranger hs

end Stranger

/-! ## Corrections in planned entities -/

namespace ClassGraph

variable {g : ClassGraph} {c : StubClass} {t : EntityTree}

/-- What is corrected in the entities of a class lies outside its top-level class. -/
theorem outside_of_entityContext (h : (g.entityContext c).result = .ok t) {e : Entity}
    (he : e ∈ t.values) {k : OwnershipCorrection} (hk : k ∈ e.corrections) :
    '$' ∉ k.stubType.toList ∧
      Name.isWithin k.stubType (g.classes.outermost c).qualifiedName = false := by
  obtain ⟨resolved, hresolved, hentities⟩ := Diagnosed.result_bind_eq_ok.1 h
  have hcls := value_cls_of_resolveTree hresolved
  refine forall_of_entityTree (P := fun e => ∀ k ∈ e.corrections, '$' ∉ k.stubType.toList ∧
    Name.isWithin k.stubType (g.classes.outermost c).qualifiedName = false)
    (fun e s x hall k' hk' => ?_) (fun stub name x d u _ hu e he k hk => ?_)
    (fun e he k hk => ?_) hentities e he k hk
  · rw [Entity.corrections_retarget] at hk'
    obtain ⟨k, hk, rfl⟩ := List.mem_map.1 hk'
    rw [Entity.stubType_retargetCorrection]
    exact hall k hk
  · rw [(sound_of_mem_strangerEntities hu he).2.1] at hk
    cases hk
  · rw [hcls] at he
    have hmoves := moves_of_mem_ownEntities hresolved (EntityTree.mem_corrections_iff.2 ⟨e, he, hk⟩)
    exact ⟨hmoves.dotted, hmoves.outside⟩

/-- **Own types stay where they are.** A type of a class is no stranger in the top-level class that
the class lies in, so no correction there is about it; nor does a correction in the entities of any
class lead to a class of the same tree. -/
theorem own_types_stay {defs : List ClassDef} {classes : ClassSet}
    (h : ClassSet.ofDefs defs = .ok classes) :
    (∀ c ∈ classes.classes, ∀ fields : FieldMap,
      (∀ e ∈ Stranger.find (classes.outermost c).qualifiedName fields,
        e.2.stubType ≠ c.qualifiedName) ∧
      ∀ targets, ∀ k ∈ Stranger.corrections classes targets (classes.outermost c) fields,
        k.stubType ≠ c.qualifiedName) ∧
    (∀ config g, make classes config = .ok g → ∀ c ∈ classes.classes, ∀ t,
      (g.entityContext c).result = .ok t → ∀ e ∈ t.values, ∀ k ∈ e.corrections,
        ∀ d ∈ classes.classes, classes.outermost d = classes.outermost c →
          k.stubType ≠ d.qualifiedName ∧ classes.find? k.stubType ≠ some d) ∧
    (∀ name, Name.isWithin name name = true) ∧
    ∀ name owner outer, Name.isWithin name owner = true → Name.isWithin owner outer = true →
      Name.isWithin name outer = true := by
  have hwf := ClassSet.ofDefs_wellFormed h
  refine ⟨fun c hc fields => ⟨fun e he => ?_, fun targets k hk => ?_⟩, ?_, Name.isWithin_refl,
    fun _ _ _ => Name.isWithin_trans⟩
  · have hs := (Stranger.mem_find_iff.1 he).2
    exact ClassSet.ne_qualifiedName_of_outside hwf hc (Stranger.not_isWithin_of_isStranger hs)
  · exact ClassSet.ne_qualifiedName_of_outside hwf hc (Stranger.outside_of_mem_corrections hk)
  · intro config g hmake c hc t ht e he k hk d hd hsame
    obtain rfl : g.classes = classes := by rw [eq_build_of_make hmake]; rfl
    obtain ⟨hdotted, hout⟩ := outside_of_entityContext ht he hk
    have hne := ClassSet.ne_qualifiedName_of_outside hwf hd (hsame ▸ hout)
    refine ⟨hne, fun hfind => hne ?_⟩
    exact ((ClassSet.find?_eq_some_iff hwf hdotted).1 hfind).2.symm

/-- A correction in the offer is about the note of a person, none about the offer's own note. -/
theorem own_types_stay_namesakes :
    ∃ c ∈ namesakes.classes.classes, ∃ t, (namesakes.entityContext c).result = .ok t ∧
      ∃ k ∈ t.value.corrections, k.stubType = "a.Person.Note" ∧
        ∀ d ∈ namesakes.classes.classes,
          namesakes.classes.outermost d = namesakes.classes.outermost c →
            k.stubType ≠ d.qualifiedName ∧ namesakes.classes.find? k.stubType ≠ some d := by
  obtain ⟨defs, classes, config, hset, hmake⟩ := accepted_namesakes
  obtain rfl : namesakes.classes = classes := by rw [eq_build_of_make hmake]; rfl
  obtain ⟨root, hroot, h⟩ := corrections_namesakes
  obtain ⟨p, hp, h⟩ := Diagnosed.exists_of_toOption h
  have hk := List.mem_of_getElem? (i := 1) (congrArg (·[1]?) (Prod.mk.inj h).2)
  obtain ⟨k, hk, h⟩ := List.mem_map.1 hk
  simp only [Prod.mk.injEq] at h
  obtain ⟨-, hstub⟩ := h
  have hmem := (mem_roots_iff.1 hroot).1
  obtain ⟨t, ht, hentity, -⟩ := planClass_ok hp
  have hcontext : (namesakes.entityContext root).result = .ok p.entity :=
    Diagnosed.result_bind_eq_ok.2 ⟨t, ht, hentity⟩
  obtain ⟨-, hstay, -⟩ := own_types_stay hset
  exact ⟨root, hmem, p.entity, hcontext, k, hk, hstub,
    hstay config namesakes hmake root hmem p.entity hcontext _ p.entity.value_mem_values k hk⟩

end ClassGraph
end EntityGen
